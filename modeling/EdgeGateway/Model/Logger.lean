import EdgeGateway.Lib.Locked
import EdgeGateway.Model.DeviceManager

/-!
# The logger

`Logger::write` of `log/logger.cpp`, which any thread calls. The local time comes from the clock and `localtime_r`.
-/

namespace EdgeGateway
open CallTree

structure LocalTime where
  year : Nat
  month : Nat
  day : Nat
  hour : Nat
  minute : Nat
  second : Nat
  millisecond : Nat

/-- The calls that are made while the mutex is held. `append` writes to the stream of the log file. -/
inductive LogOp where
  | now
  | printOut (text : Text)
  | printError (text : Text)
  | append (text : Text)
  | flush

abbrev LogOp.Ans : LogOp → Type
  | .now => LocalTime
  | .printOut _ => Unit
  | .printError _ => Unit
  | .append _ => Unit
  | .flush => Unit

abbrev logSignature : Signature :=
  ⟨LogOp, LogOp.Ans⟩

abbrev LogCall := Prog logSignature

/-- `static_cast<int>`. -/
def LogLevel.toInt : LogLevel → Int
  | .debug => 0
  | .info => 1
  | .warn => 2
  | .error => 3

def LogLevel.name : LogLevel → Text
  | .debug => ascii "DEBUG"
  | .info => ascii "INFO"
  | .warn => ascii "WARN"
  | .error => ascii "ERROR"

structure Logger where
  minimumLevel : LogLevel := .debug
  fileIsOpen : Bool := true

namespace Logger

def perform (o : LogOp) : LogCall o.Ans :=
  Prog.perform (E := logSignature) o

/-- `std::setfill('0')` and `std::setw`. -/
def zeroFilled (width n : Nat) : Text :=
  List.replicate (width - (decimal n).length) 48 ++ decimal n

/-- `std::put_time` with `%Y-%m-%d %H:%M:%S`, and the milliseconds. -/
def timestamp (t : LocalTime) : Text :=
  decimal t.year ++ ascii "-" ++ zeroFilled 2 t.month ++ ascii "-" ++ zeroFilled 2 t.day ++ ascii " " ++
  zeroFilled 2 t.hour ++ ascii ":" ++ zeroFilled 2 t.minute ++ ascii ":" ++ zeroFilled 2 t.second ++ ascii "." ++
  zeroFilled 3 t.millisecond

def line (time : LocalTime) (level : LogLevel) (module message : Text) : Text :=
  timestamp time ++ ascii " [" ++ level.name ++ ascii "]" ++ ascii " [" ++ module ++ ascii "] " ++ message

/-- The part of `write` that holds the mutex. -/
def record (l : Logger) (level : LogLevel) (module message : Text) : LogCall Unit := do
  let time ← perform .now
  let text := line time level module message
  (if level = .warn ∨ level = .error then do
    perform (.printError text)
    perform (.printError (ascii "\n"))
  else do
    perform (.printOut text)
    perform (.printOut (ascii "\n")))
  (if l.fileIsOpen then do
    perform (.append text)
    perform (.append (ascii "\n"))
    perform .flush
    perform .flush
  else
    return ())

def write (l : Logger) (level : LogLevel) (module message : Text) : Prog (lockSignature logSignature) Unit :=
  if level.toInt < l.minimumLevel.toInt then return () else locked (l.record level module message)

end Logger

end EdgeGateway
