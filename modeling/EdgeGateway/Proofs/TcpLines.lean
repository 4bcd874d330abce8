import EdgeGateway.Model.FileCache
import EdgeGateway.Model.TcpClient

/-!
# JSON Lines over TCP

The client on a network that connects and sends as it likes. A failed `send_all` may leave the beginning of
a line behind, and then the connection is closed, so that the next message goes to a new one.
-/

namespace EdgeGateway
open CallTree

/-! ### What the receiver sees -/

/-- The complete lines of a byte stream. -/
def completeLines : List UInt8 → List Text
  | [] => []
  | byte :: stream =>
    if byte = newline then
      [] :: completeLines stream
    else
      match completeLines stream with
      | [] => []
      | line :: lines => (byte :: line) :: lines

/-- What stands after the last newline. -/
def partialLine : List UInt8 → List UInt8
  | [] => []
  | byte :: stream => if newline ∈ byte :: stream then partialLine stream else byte :: stream

def jsonLine (json : Text) : Text :=
  json ++ [newline]

lemma completeLines_of_no_newline {rest : List UInt8} (h : newline ∉ rest) : completeLines rest = [] := by
  induction rest with
  | nil => rfl
  | cons byte rest ih =>
    rw [List.mem_cons, not_or] at h
    rw [completeLines, if_neg (Ne.symm h.1), ih h.2]

lemma partialLine_of_no_newline {rest : List UInt8} (h : newline ∉ rest) : partialLine rest = rest := by
  cases rest with
  | nil => rfl
  | cons byte rest => rw [partialLine, if_neg h]

lemma completeLines_jsonLine_append {json : Text} (h : newline ∉ json) (stream : List UInt8) :
    completeLines (jsonLine json ++ stream) = json :: completeLines stream := by
  induction json with
  | nil => rfl
  | cons byte json ih =>
    rw [List.mem_cons, not_or] at h
    change completeLines (byte :: (jsonLine json ++ stream)) = _
    rw [completeLines, if_neg (Ne.symm h.1), ih h.2]

lemma partialLine_jsonLine_append (json : Text) (stream : List UInt8) :
    partialLine (jsonLine json ++ stream) = partialLine stream := by
  induction json with
  | nil => exact if_pos List.mem_cons_self
  | cons byte json ih =>
    change partialLine (byte :: (jsonLine json ++ stream)) = _
    rw [partialLine, if_pos, ih]
    simp [jsonLine]

/-- The receiver finds the lines that were sent, and what was sent of the last one. -/
lemma lines_of_flatMap {lines : List Text} (hlines : ∀ line ∈ lines, newline ∉ line) {rest : List UInt8}
    (hrest : newline ∉ rest) :
    completeLines (lines.flatMap jsonLine ++ rest) = lines ∧ partialLine (lines.flatMap jsonLine ++ rest) = rest := by
  induction lines with
  | nil => exact ⟨completeLines_of_no_newline hrest, partialLine_of_no_newline hrest⟩
  | cons line lines ih =>
    obtain ⟨hcomplete, hpartial⟩ := ih (fun l hl => hlines l (List.mem_cons_of_mem _ hl))
    rw [List.flatMap_cons, List.append_assoc, completeLines_jsonLine_append (hlines line List.mem_cons_self),
      partialLine_jsonLine_append, hcomplete, hpartial]
    exact ⟨rfl, rfl⟩

/-! ### The network -/

structure Network where
  /-- The bytes sent on each connection, in the order of connecting. -/
  streams : List (List UInt8) := []
  /-- The connection behind a descriptor. -/
  connection : Int → Option Nat := fun _ => none

namespace Network

def connect (w : Network) (fd : Int) : Network where
  streams := w.streams ++ [[]]
  connection := Function.update w.connection fd (some w.streams.length)

def send (w : Network) (fd : Int) (bytes : List UInt8) : Network :=
  match w.connection fd with
  | none => w
  | some i => { w with streams := w.streams.modify i (fun stream => stream ++ bytes) }

def close (w : Network) (fd : Int) : Network :=
  { w with connection := Function.update w.connection fd none }

end Network

/-- Calls answer as they like, but a new descriptor is not in use, and what `send` returns is the number of
bytes it has taken. -/
def networkEnv : Env tcpSignature Network := fun w o =>
  match o with
  | .socket _ => fun (fd : Int) w' => (0 ≤ fd → w.connection fd = none) ∧ w' = w
  | .connect fd _ => fun (result : Int) w' => w' = if result = 0 then w.connect fd else w
  | .send fd data => fun (answer : SendAnswer) w' =>
      answer.result ≤ data.length ∧ w' = w.send fd (data.take answer.result.toNat)
  | .close fd => fun _ w' => w' = w.close fd
  | _ => fun _ w' => w' = w

/-- The client completes some calls. `log` are the calls of `send_json` among them, with their results. -/
inductive TcpRun (c : TcpClient) (w : Network) : List (Text × Bool) → TcpClient → Network → Prop where
  | start : TcpRun c w [] c w
  | sendJson {log : List (Text × Bool)} {c' c'' : TcpClient} {w' w'' : Network} {json : Text} {passes : Nat}
      {result : Bool} : TcpRun c w log c' w' → newline ∉ json →
      Exec networkEnv (c'.sendJson json passes) w' (some result, c'') w'' →
      TcpRun c w (log ++ [(json, result)]) c'' w''
  | connectToServer {log : List (Text × Bool)} {c' c'' : TcpClient} {w' w'' : Network} {result : Bool} :
      TcpRun c w log c' w' → Exec networkEnv c'.connectToServer w' (result, c'') w'' → TcpRun c w log c'' w''
  | disconnect {log : List (Text × Bool)} {c' c'' : TcpClient} {w' w'' : Network} :
      TcpRun c w log c' w' → Exec networkEnv c'.disconnect w' c'' w'' → TcpRun c w log c'' w''

/-- The streams consist of complete lines and at most the beginning of one more. The lines are the messages
that were sent, and the beginnings are those of messages that were not. -/
structure LinesFramed (log : List (Text × Bool)) (w : Network) : Prop where
  split : ∀ stream ∈ w.streams, stream = (completeLines stream).flatMap jsonLine ++ partialLine stream
  lines : w.streams.flatMap completeLines = (log.filter Prod.snd).map Prod.fst
  rests : ∀ stream ∈ w.streams, partialLine stream = [] ∨
    ∃ json, (json, false) ∈ log ∧ partialLine stream <+: json

/-- Nothing was written any more after the beginning of a line. -/
def PartialsKept (w w' : Network) : Prop :=
  ∀ (i : Nat) (stream : List UInt8), w.streams[i]? = some stream → partialLine stream ≠ [] →
    w'.streams[i]? = some stream

/-! ### The invariant -/

/-- What was sent on one connection: whole lines and the beginning of one more. -/
structure Carried where
  lines : List Text := []
  rest : Text := []

def Carried.bytes (x : Carried) : List UInt8 :=
  x.lines.flatMap jsonLine ++ x.rest

/-- The connection in use is the last one, and no line was left unfinished on it. -/
structure Framed (log : List (Text × Bool)) (c : TcpClient) (w : Network) (carried : List Carried) : Prop where
  streams : w.streams = carried.map Carried.bytes
  lines : carried.flatMap Carried.lines = (log.filter Prod.snd).map Prod.fst
  rests : ∀ x ∈ carried, x.rest = [] ∨ ∃ json, (json, false) ∈ log ∧ x.rest <+: json
  current : c.isConnected = true → ∃ earlier last, carried = earlier ++ [last] ∧ last.rest = [] ∧
    w.connection c.socketFd = some earlier.length

/-- Connections with an unfinished line stay as they are. -/
def Frozen (carried carried' : List Carried) : Prop :=
  ∀ (i : Nat) (x : Carried), carried[i]? = some x → x.rest ≠ [] → carried'[i]? = some x

namespace Frozen

lemma refl (carried : List Carried) : Frozen carried carried :=
  fun _ _ h _ => h

lemma trans {a b c : List Carried} (h : Frozen a b) (h' : Frozen b c) : Frozen a c :=
  fun i x hx hrest => h' i x (h i x hx hrest) hrest

lemma append (carried : List Carried) (x : Carried) : Frozen carried (carried ++ [x]) := by
  intro i y hy _
  rw [List.getElem?_append_left (List.getElem?_eq_some_iff.mp hy).1]
  exact hy

/-- The last connection may change if it had no unfinished line. -/
lemma last {earlier : List Carried} {x : Carried} (hrest : x.rest = []) (y : Carried) :
    Frozen (earlier ++ [x]) (earlier ++ [y]) := by
  intro i z hz hunfinished
  by_cases hearlier : i < earlier.length
  · rw [List.getElem?_append_left hearlier] at hz ⊢
    exact hz
  · exfalso
    rw [List.getElem?_append_right (not_lt.mp hearlier), List.getElem?_singleton] at hz
    split at hz
    · rw [← Option.some.inj hz] at hunfinished
      exact hunfinished hrest
    · cases hz

end Frozen

section

variable {log : List (Text × Bool)} {c : TcpClient} {w : Network} {carried : List Carried}

/-- A longer log explains the same unfinished lines. -/
lemma Framed.rests_append (h : Framed log c w carried) (more : List (Text × Bool)) {x : Carried} (hx : x ∈ carried) :
    x.rest = [] ∨ ∃ json, (json, false) ∈ log ++ more ∧ x.rest <+: json := by
  rcases h.rests x hx with hnone | ⟨json, hlog, hrest⟩
  · exact .inl hnone
  · exact .inr ⟨json, List.mem_append_left _ hlog, hrest⟩

lemma Framed.fail (h : Framed log c w carried) (json : Text) : Framed (log ++ [(json, false)]) c w carried where
  streams := h.streams
  lines := by
    rw [h.lines]
    simp
  rests := fun _ hx => h.rests_append _ hx
  current := h.current

/-- Without a connection only the streams count. -/
lemma Framed.of_disconnected (h : Framed log c w carried) {c' : TcpClient} {w' : Network}
    (hclosed : c'.isConnected = false) (hstreams : w'.streams = w.streams) : Framed log c' w' carried where
  streams := hstreams.trans h.streams
  lines := h.lines
  rests := h.rests
  current := by
    intro hopen
    rw [hclosed] at hopen
    cases hopen

/-- A new connection. -/
lemma Framed.connect (h : Framed log c w carried) (fd : Int) :
    Framed log { c with socketFd := fd } (w.connect fd) (carried ++ [({} : Carried)]) where
  streams := by
    rw [List.map_append, ← h.streams]
    rfl
  lines := by
    rw [List.flatMap_append, ← h.lines]
    simp
  rests := by
    intro x hx
    rcases List.mem_append.mp hx with hx | hx
    · exact h.rests x hx
    · rw [List.mem_singleton] at hx
      rw [hx]
      exact .inl rfl
  current := by
    intro _
    refine ⟨carried, {}, rfl, rfl, ?_⟩
    have hlength : w.streams.length = carried.length := by rw [h.streams, List.length_map]
    rw [← hlength]
    exact Function.update_self ..

/-! ### The calls -/

lemma wp_print_network (line : Text) {Q : Unit → Network → Prop} (hQ : Q () w) :
    wp networkEnv (TcpClient.print line) Q w := by
  rintro _ w' rfl
  exact hQ

lemma wp_connectFirst (addresses : List AddrInfo) :
    wp networkEnv (TcpClient.connectFirst addresses) (fun fd w' =>
      fd < 0 ∧ w'.streams = w.streams ∨
      0 ≤ fd ∧ ∃ w₁ : Network, w₁.streams = w.streams ∧ w' = w₁.connect fd) w := by
  induction addresses generalizing w with
  | nil => exact .inl ⟨by decide, rfl⟩
  | cons current addresses ih =>
    rw [TcpClient.connectFirst, wp_bind]
    rintro fd w₁ ⟨-, rfl⟩
    rw [wp_ret]
    by_cases hfailed : fd < 0
    · rw [if_pos hfailed]
      exact ih
    · rw [if_neg hfailed, wp_bind]
      rintro result w₂ rfl
      rw [wp_ret]
      by_cases hzero : result = 0
      · rw [if_pos hzero, if_pos hzero]
        exact .inr ⟨not_lt.mp hfailed, w₁, rfl, rfl⟩
      · rw [if_neg hzero, if_neg hzero, wp_bind]
        rintro _ w₃ rfl
        exact ih (w := w₁.close fd)

/-- The result says whether there is a connection. -/
lemma wp_connectToServer (h : Framed log c w carried) :
    wp networkEnv c.connectToServer (fun answer w' => answer.1 = answer.2.isConnected ∧
      ∃ carried', Framed log answer.2 w' carried' ∧ Frozen carried carried') w := by
  unfold TcpClient.connectToServer
  by_cases hopen : c.isConnected = true
  · rw [if_pos hopen]
    exact ⟨hopen.symm, carried, h, .refl _⟩
  · rw [if_neg hopen, wp_bind]
    rintro answer w₁ rfl
    rw [wp_ret]
    rw [Bool.not_eq_true] at hopen
    match answer with
    | .error error =>
      dsimp only
      rw [wp_bind]
      apply wp_print_network
      exact ⟨hopen.symm, carried, h, .refl _⟩
    | .ok addresses =>
      dsimp only
      rw [wp_bind]
      apply wp_mono _ (wp_connectFirst addresses)
      rintro fd w₂ (⟨hfd, hstreams⟩ | ⟨hfd, w₃, hstreams, rfl⟩)
      · have hclosed : TcpClient.isConnected { c with socketFd := fd } = false := decide_eq_false (not_le.mpr hfd)
        rw [if_neg (by rw [hclosed]; decide), wp_bind]
        apply wp_print_network
        exact ⟨hclosed.symm, carried, h.of_disconnected hclosed hstreams, .refl _⟩
      · have hconnected : TcpClient.isConnected { c with socketFd := fd } = true := decide_eq_true hfd
        rw [if_pos hconnected, wp_bind]
        apply wp_print_network
        have hsame : Framed log c w₃ carried := h.of_disconnected hopen hstreams
        exact ⟨hconnected.symm, carried ++ [({} : Carried)], hsame.connect fd, .append _ _⟩

lemma wp_disconnect :
    wp networkEnv c.disconnect (fun c' w' => c'.isConnected = false ∧ w'.streams = w.streams) w := by
  unfold TcpClient.disconnect
  by_cases hopen : c.isConnected = true
  · rw [if_pos hopen, wp_bind]
    rintro _ w₁ rfl
    rw [wp_ret, wp_bind]
    apply wp_print_network
    exact ⟨rfl, rfl⟩
  · rw [if_neg hopen]
    exact ⟨Bool.not_eq_true _ ▸ hopen, rfl⟩

/-- The bytes on the connection of a descriptor, which is the last one. -/
structure OnWire (w : Network) (fd : Int) (earlier : List (List UInt8)) (stream : List UInt8) : Prop where
  streams : w.streams = earlier ++ [stream]
  connection : w.connection fd = some earlier.length

lemma OnWire.send {fd : Int} {earlier : List (List UInt8)} {stream : List UInt8} (h : OnWire w fd earlier stream)
    (bytes : List UInt8) : OnWire (w.send fd bytes) fd earlier (stream ++ bytes) := by
  unfold Network.send
  rw [h.connection]
  refine ⟨?_, h.connection⟩
  dsimp only
  rw [h.streams, List.modify_eq_take_drop, List.take_left, List.drop_left]
  rfl

/-- However the bytes are taken, what was sent so far is the beginning of the data, and all of it if and only
if `send_all` returned `true`. -/
lemma wp_sendAll {data : List UInt8} {earlier : List (List UInt8)} {stream : List UInt8} {sentBytes : Nat}
    (hsent : sentBytes ≤ data.length) (h : OnWire w c.socketFd earlier (stream ++ data.take sentBytes))
    (passes : Nat) :
    wp networkEnv (c.sendAll data sentBytes passes) (fun answer w' => ∃ n ≤ data.length,
      OnWire w' c.socketFd earlier (stream ++ data.take n) ∧ (answer = some true → n = data.length) ∧
      (answer = some false → n < data.length)) w := by
  induction passes generalizing sentBytes w with
  | zero => exact ⟨sentBytes, hsent, h, nofun, nofun⟩
  | succ passes ih =>
    rw [TcpClient.sendAll]
    by_cases hmore : sentBytes < data.length
    · rw [if_pos hmore, wp_bind]
      rintro answer w₁ ⟨hresult, rfl⟩
      rw [wp_ret]
      rw [List.length_drop] at hresult
      have hwire := h.send ((data.drop sentBytes).take answer.result.toNat)
      rw [List.append_assoc, ← List.take_add] at hwire
      by_cases hnegative : answer.result < 0
      · have hnothing : answer.result.toNat = 0 := Int.toNat_eq_zero.mpr hnegative.le
        rw [hnothing, Nat.add_zero] at hwire
        rw [if_pos hnegative]
        split
        · rw [hnothing]
          exact ih hsent hwire
        · rw [hnothing]
          exact ⟨sentBytes, hsent, hwire, nofun, fun _ => hmore⟩
      · rw [if_neg hnegative]
        by_cases hzero : answer.result = 0
        · rw [hzero, Int.toNat_zero, Nat.add_zero] at hwire
          rw [if_pos hzero, hzero]
          exact ⟨sentBytes, hsent, hwire, nofun, fun _ => hmore⟩
        · rw [if_neg hzero]
          exact ih (by omega) hwire
    · rw [if_neg hmore]
      exact ⟨sentBytes, hsent, h, fun _ => by omega, nofun⟩

section

variable {earlier : List Carried} {last : Carried} {json : Text} {w' : Network}

/-- A whole line on the connection in use. -/
lemma Framed.whole (h : Framed log c w (earlier ++ [last])) (hlast : last.rest = [])
    (hwire : OnWire w' c.socketFd (earlier.map Carried.bytes) (last.bytes ++ jsonLine json)) :
    Framed (log ++ [(json, true)]) c w' (earlier ++ [⟨last.lines ++ [json], []⟩]) where
  streams := by
    rw [hwire.streams, List.map_append]
    simp [Carried.bytes, hlast]
  lines := by
    have hlines := h.lines
    rw [List.flatMap_append, List.flatMap_singleton] at hlines
    rw [List.filter_append, List.map_append, ← hlines, List.flatMap_append, List.flatMap_singleton,
      List.append_assoc]
    rfl
  rests := by
    intro x hx
    rcases List.mem_append.mp hx with hx | hx
    · exact h.rests_append _ (List.mem_append_left _ hx)
    · rw [List.mem_singleton] at hx
      rw [hx]
      exact .inl rfl
  current := by
    intro _
    refine ⟨earlier, _, rfl, rfl, ?_⟩
    have hconnection := hwire.connection
    rw [List.length_map] at hconnection
    exact hconnection

/-- A line that was cut off. The connection is not used any more. -/
lemma Framed.cut (h : Framed log c w (earlier ++ [last])) (hlast : last.rest = []) {n : Nat} (hn : n ≤ json.length)
    (hwire : OnWire w' c.socketFd (earlier.map Carried.bytes) (last.bytes ++ (jsonLine json).take n))
    {c' : TcpClient} (hclosed : c'.isConnected = false) :
    Framed (log ++ [(json, false)]) c' w' (earlier ++ [⟨last.lines, json.take n⟩]) where
  streams := by
    rw [hwire.streams, List.map_append, jsonLine, List.take_append_of_le_length hn]
    simp [Carried.bytes, hlast]
  lines := by
    have hlines := h.lines
    rw [List.flatMap_append, List.flatMap_singleton] at hlines
    rw [List.filter_append, List.map_append, ← hlines, List.flatMap_append, List.flatMap_singleton]
    exact (List.append_nil _).symm
  rests := by
    intro x hx
    rcases List.mem_append.mp hx with hx | hx
    · exact h.rests_append _ (List.mem_append_left _ hx)
    · rw [List.mem_singleton] at hx
      rw [hx]
      exact .inr ⟨json, by simp, List.take_prefix n json⟩
  current := by
    intro hopen
    rw [hclosed] at hopen
    cases hopen

end

/-- The state after `send_json` has returned, and what it looks like before. -/
structure SendsLine (log : List (Text × Bool)) (json : Text) (carried : List Carried)
    (answer : Option Bool × TcpClient) (w : Network) (carried' : List Carried) : Prop where
  frozen : Frozen carried carried'
  returned : ∀ {result : Bool}, answer.1 = some result → Framed (log ++ [(json, result)]) answer.2 w carried'
  running : answer.1 = none → ∃ result c, Framed (log ++ [(json, result)]) c w carried'

lemma wp_sendMessage (h : Framed log c w carried) (hopen : c.isConnected = true) (json : Text) (passes : Nat) :
    wp networkEnv (c.sendMessage (jsonLine json) passes) (fun answer w' =>
      ∃ carried', SendsLine log json carried answer w' carried') w := by
  obtain ⟨earlier, last, rfl, hlast, hconnection⟩ := h.current hopen
  have hwire : OnWire w c.socketFd (earlier.map Carried.bytes) (last.bytes ++ (jsonLine json).take 0) := by
    refine ⟨?_, ?_⟩
    · rw [h.streams, List.map_append, List.take_zero, List.append_nil]
      rfl
    · rw [hconnection, List.length_map]
  have hlength : (jsonLine json).length = json.length + 1 := List.length_append
  unfold TcpClient.sendMessage
  rw [wp_bind]
  apply wp_mono _ (wp_sendAll (Nat.zero_le _) hwire passes)
  rintro answer w₁ ⟨n, hn, hwire, htrue, hfalse⟩
  have hwhole : n = (jsonLine json).length →
      Framed (log ++ [(json, true)]) c w₁ (earlier ++ [⟨last.lines ++ [json], []⟩]) := by
    intro hall
    rw [hall, List.take_length] at hwire
    exact h.whole hlast hwire
  match answer with
  | none =>
    by_cases hall : n = (jsonLine json).length
    · refine ⟨_, .last hlast _, nofun, fun _ => ⟨true, c, hwhole hall⟩⟩
    · have hclosed : TcpClient.isConnected { c with socketFd := -1 } = false := rfl
      exact ⟨_, .last hlast _, nofun, fun _ => ⟨false, _, h.cut hlast (by omega) hwire hclosed⟩⟩
  | some true =>
    dsimp only
    rw [wp_bind]
    apply wp_print_network
    refine ⟨earlier ++ [⟨last.lines ++ [json], []⟩], .last hlast _, ?_, nofun⟩
    rintro result ⟨⟩
    exact hwhole (htrue rfl)
  | some false =>
    dsimp only
    rw [wp_bind]
    rintro _ w₂ rfl
    rw [wp_ret, wp_bind]
    apply wp_print_network
    rw [wp_bind]
    apply wp_mono _ wp_disconnect
    rintro c' w₃ ⟨hclosed, hstreams⟩
    have hcut := h.cut hlast (by have := hfalse rfl; omega) hwire hclosed
    refine ⟨earlier ++ [⟨last.lines, json.take n⟩], .last hlast _, ?_, nofun⟩
    rintro result ⟨⟩
    exact hcut.of_disconnected hclosed hstreams

lemma wp_sendJson (h : Framed log c w carried) (json : Text) (passes : Nat) :
    wp networkEnv (c.sendJson json passes) (fun answer w' =>
      ∃ carried', SendsLine log json carried answer w' carried') w := by
  have hconnect : wp networkEnv (if c.isConnected then return (true, c) else c.connectToServer)
      (fun answer w' => answer.1 = answer.2.isConnected ∧
        ∃ carried', Framed log answer.2 w' carried' ∧ Frozen carried carried') w := by
    by_cases hopen : c.isConnected = true
    · rw [if_pos hopen]
      exact ⟨hopen.symm, carried, h, .refl _⟩
    · rw [if_neg hopen]
      exact wp_connectToServer h
  unfold TcpClient.sendJson
  rw [wp_bind]
  apply wp_mono _ hconnect
  rintro ⟨connected, c₁⟩ w₁ ⟨hconnected, carried₁, hframed, hfrozen⟩
  dsimp only
  cases connected with
  | true =>
    rw [if_pos rfl]
    change wp _ (c₁.sendMessage (jsonLine json) passes) _ _
    apply wp_mono _ (wp_sendMessage hframed hconnected.symm json passes)
    rintro answer w₂ ⟨carried₂, hsends⟩
    exact ⟨carried₂, hfrozen.trans hsends.frozen, hsends.returned, hsends.running⟩
  | false =>
    rw [if_neg Bool.false_ne_true]
    refine ⟨carried₁, hfrozen, ?_, nofun⟩
    rintro result ⟨⟩
    exact hframed.fail json

/-! ### Whole runs -/

lemma TcpRun.framed (h : Framed log c w carried) {log' : List (Text × Bool)} {c' : TcpClient} {w' : Network}
    (hrun : TcpRun c w log' c' w') : ∃ carried', Framed (log ++ log') c' w' carried' ∧ Frozen carried carried' := by
  induction hrun with
  | start =>
    rw [List.append_nil]
    exact ⟨carried, h, .refl _⟩
  | @sendJson log' c₁ c₂ w₁ w₂ json passes result _ _ hexec ih =>
    obtain ⟨carried₁, hframed, hfrozen⟩ := ih
    obtain ⟨carried₂, hsends⟩ := (wp_iff_exec _ _ _ _).mp (wp_sendJson hframed json passes) _ _ hexec
    rw [← List.append_assoc]
    exact ⟨carried₂, hsends.returned rfl, hfrozen.trans hsends.frozen⟩
  | connectToServer _ hexec ih =>
    obtain ⟨carried₁, hframed, hfrozen⟩ := ih
    obtain ⟨-, carried₂, hframed', hfrozen'⟩ := (wp_iff_exec _ _ _ _).mp (wp_connectToServer hframed) _ _ hexec
    exact ⟨carried₂, hframed', hfrozen.trans hfrozen'⟩
  | disconnect _ hexec ih =>
    obtain ⟨carried₁, hframed, hfrozen⟩ := ih
    obtain ⟨hclosed, hstreams⟩ := (wp_iff_exec _ _ _ _).mp wp_disconnect _ _ hexec
    exact ⟨carried₁, hframed.of_disconnected hclosed hstreams, hfrozen⟩

lemma TcpRun.newline_free {c' : TcpClient} {w' : Network} (hrun : TcpRun c w log c' w') :
    ∀ sent ∈ log, newline ∉ sent.1 := by
  induction hrun with
  | start => exact nofun
  | sendJson _ hjson _ ih =>
    intro sent hsent
    rcases List.mem_append.mp hsent with hsent | hsent
    · exact ih sent hsent
    · rw [List.mem_singleton] at hsent
      rw [hsent]
      exact hjson
  | connectToServer _ _ ih => exact ih
  | disconnect _ _ ih => exact ih

section

variable (h : Framed log c w carried) (hlog : ∀ sent ∈ log, newline ∉ sent.1)
include h hlog

/-- Without newlines in the messages the receiver sees what was carried. -/
lemma Framed.received {x : Carried} (hx : x ∈ carried) :
    completeLines x.bytes = x.lines ∧ partialLine x.bytes = x.rest := by
  apply lines_of_flatMap
  · intro line hline
    have hsent : line ∈ (log.filter Prod.snd).map Prod.fst := by
      rw [← h.lines]
      exact List.mem_flatMap.mpr ⟨x, hx, hline⟩
    obtain ⟨sent, hfiltered, rfl⟩ := List.mem_map.mp hsent
    exact hlog sent (List.mem_of_mem_filter hfiltered)
  · rcases h.rests x hx with hnone | ⟨json, hjson, hrest⟩
    · rw [hnone]
      exact nofun
    · exact fun hnewline => hlog _ hjson (hrest.subset hnewline)

lemma Framed.linesFramed : LinesFramed log w where
  split := by
    rw [h.streams]
    intro stream hstream
    obtain ⟨x, hx, rfl⟩ := List.mem_map.mp hstream
    obtain ⟨hlines, hrest⟩ := h.received hlog hx
    rw [hlines, hrest]
    rfl
  lines := by
    rw [h.streams, List.flatMap_map, ← h.lines]
    exact List.flatMap_congr (fun x hx => (h.received hlog hx).1)
  rests := by
    rw [h.streams]
    intro stream hstream
    obtain ⟨x, hx, rfl⟩ := List.mem_map.mp hstream
    rw [(h.received hlog hx).2]
    exact h.rests x hx

lemma Framed.partialsKept {log' : List (Text × Bool)} {c' : TcpClient} {w' : Network} {carried' : List Carried}
    (h' : Framed log' c' w' carried') (hfrozen : Frozen carried carried') : PartialsKept w w' := by
  intro i stream hstream hpartial
  rw [h.streams, List.getElem?_map, Option.map_eq_some_iff] at hstream
  obtain ⟨x, hx, rfl⟩ := hstream
  rw [(h.received hlog (List.mem_of_getElem? hx)).2] at hpartial
  rw [h'.streams, List.getElem?_map, hfrozen i x hx hpartial]
  rfl

end

end

lemma framed_start (host : Text) (port : UInt16) : Framed [] ⟨host, port, -1⟩ {} [] :=
  ⟨rfl, rfl, nofun, nofun⟩

/-- Whatever the network does, each stream consists of the lines that were sent and at most the beginning of
one that was not, after which nothing is written. A call that has not returned yet has left the streams as
one of its results would. -/
theorem tcp_lines_framed (host : Text) (port : UInt16) {log : List (Text × Bool)} {c : TcpClient} {w : Network}
    (hrun : TcpRun ⟨host, port, -1⟩ {} log c w) :
    LinesFramed log w ∧
    (∀ {log' : List (Text × Bool)} {c' : TcpClient} {w' : Network}, TcpRun c w log' c' w' → PartialsKept w w') ∧
    ∀ {json : Text} {passes : Nat} {c' : TcpClient} {w' : Network}, newline ∉ json →
      Exec networkEnv (c.sendJson json passes) w (none, c') w' →
      PartialsKept w w' ∧ ∃ result, LinesFramed (log ++ [(json, result)]) w' := by
  obtain ⟨carried, hframed, -⟩ := hrun.framed (framed_start host port)
  rw [List.nil_append] at hframed
  have hlog := hrun.newline_free
  refine ⟨hframed.linesFramed hlog, ?_, ?_⟩
  · intro log' c' w' hlater
    obtain ⟨carried', hframed', hfrozen⟩ := hlater.framed hframed
    exact hframed.partialsKept hlog hframed' hfrozen
  · intro json passes c' w' hjson hexec
    obtain ⟨carried', hsends⟩ := (wp_iff_exec _ _ _ _).mp (wp_sendJson hframed json passes) _ _ hexec
    obtain ⟨result, c'', hframed'⟩ := hsends.running rfl
    refine ⟨hframed.partialsKept hlog hframed' hsends.frozen, result, hframed'.linesFramed ?_⟩
    intro sent hsent
    rcases List.mem_append.mp hsent with hsent | hsent
    · exact hlog sent hsent
    · rw [List.mem_singleton] at hsent
      rw [hsent]
      exact hjson

/-- A network that loses the first connection after one byte. -/
def lossyNetwork (w : Network) : (o : TcpOp) → o.Ans × Network
  | .getaddrinfo _ _ => (.ok [⟨2, 1, 6, []⟩], w)
  | .socket _ => (if w.connection 3 = none then 3 else -1, w)
  | .connect fd _ => (0, w.connect fd)
  | .send fd data =>
    if w.streams = [[]] then (⟨min 1 data.length, 0⟩, w.send fd (data.take 1))
    else if w.streams.length = 1 then (⟨-1, 104⟩, w)
    else (⟨data.length, 0⟩, w.send fd data)
  | .close fd => ((), w.close fd)
  | .strerror => (ascii "Connection reset by peer", w)
  | .print _ => ((), w)

lemma Network.send_nil (w : Network) (fd : Int) : w.send fd [] = w := by
  unfold Network.send
  cases w.connection fd with
  | none => rfl
  | some i =>
    simp only [List.append_nil]
    rw [show (fun stream : List UInt8 => stream) = id from rfl, List.modify_id]

lemma networkEnv_lossyNetwork (w : Network) (o : TcpOp) :
    networkEnv w o (lossyNetwork w o).1 (lossyNetwork w o).2 := by
  cases o with
  | getaddrinfo host port => rfl
  | socket address =>
    refine ⟨?_, rfl⟩
    unfold lossyNetwork
    dsimp only
    split
    · rename_i hfree
      exact fun _ => hfree
    · exact nofun
  | connect fd address => rfl
  | send fd data =>
    unfold lossyNetwork networkEnv
    dsimp only
    split
    · refine ⟨by dsimp only; omega, ?_⟩
      have hone : (min 1 (data.length : Int)).toNat = min 1 data.length := by omega
      rw [hone, ← List.take_take, List.take_length]
    · split
      · exact ⟨by dsimp only; omega, (w.send_nil fd).symm⟩
      · refine ⟨le_refl _, ?_⟩
        dsimp only
        rw [Int.toNat_natCast, List.take_length]
  | close fd => rfl
  | strerror => rfl
  | print line => rfl

/-- One byte of the first message is left on the lost connection, and the second message is a line of its
own on the next one. -/
theorem tcp_lines_framed_reconnect :
    ∃ c w, TcpRun ⟨ascii "localhost", 9000, -1⟩ {} [(ascii "[1]", false), (ascii "[2]", true)] c w ∧
      w.streams = [ascii "[", ascii "[2]\n"] ∧
      LinesFramed [(ascii "[1]", false), (ascii "[2]", true)] w := by
  let c : TcpClient := ⟨ascii "localhost", 9000, -1⟩
  let w₁ : Network := (Network.connect {} 3 |>.send 3 (ascii "[")).close 3
  let w₂ : Network := (w₁.connect 3).send 3 (ascii "[2]\n")
  have hfirst : Exec networkEnv (c.sendJson (ascii "[1]") 5) {} (some false, c) w₁ :=
    exec_run networkEnv_lossyNetwork (c.sendJson (ascii "[1]") 5) {}
  have hsecond : Exec networkEnv (c.sendJson (ascii "[2]") 5) w₁ (some true, { c with socketFd := 3 }) w₂ :=
    exec_run networkEnv_lossyNetwork (c.sendJson (ascii "[2]") 5) w₁
  have hrun := (TcpRun.start.sendJson (by decide) hfirst).sendJson (by decide) hsecond
  exact ⟨_, w₂, hrun, rfl, (tcp_lines_framed _ _ hrun).1⟩

end EdgeGateway
