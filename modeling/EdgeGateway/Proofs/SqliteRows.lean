import EdgeGateway.Model.SqliteCache
import Mathlib.Data.List.TakeWhile
import Mathlib.Tactic

/-!
# What the SQLite cache keeps

A text is stored through `bindText` and read back through `cString`. It comes back unchanged exactly
when it has no NUL and its length survives the cast to `int`. Apart from that the table is a queue:
ids ascend, an insertion goes to the back and a removal takes from the front.
-/

namespace EdgeGateway

/-- `static_cast<int>` of the length is negative or does not wrap. -/
def LengthFits (s : Text) : Prop :=
  s.length % 2 ^ 32 < 2 ^ 31 → s.length < 2 ^ 31

instance (s : Text) : Decidable (LengthFits s) :=
  inferInstanceAs (Decidable (_ → _))

def Storable (s : Text) : Prop :=
  0 ∉ s ∧ LengthFits s

instance (s : Text) : Decidable (Storable s) :=
  inferInstanceAs (Decidable (_ ∧ _))

def CachedMessage.Storable (m : CachedMessage) : Prop :=
  EdgeGateway.Storable m.topic ∧ EdgeGateway.Storable m.payload

instance (m : CachedMessage) : Decidable m.Storable :=
  inferInstanceAs (Decidable (_ ∧ _))

lemma castInt_of_small {n : Nat} (h : n % 2 ^ 32 < 2 ^ 31) : castInt n = (n % 2 ^ 32 : Nat) := by
  unfold castInt
  rw [BitVec.toInt_eq_toNat_of_lt (by rw [BitVec.toNat_ofNat]; omega), BitVec.toNat_ofNat]

lemma castInt_neg_of_large {n : Nat} (h : ¬n % 2 ^ 32 < 2 ^ 31) : castInt n < 0 := by
  unfold castInt
  rw [BitVec.toInt_eq_toNat_cond, BitVec.toNat_ofNat, if_neg (by omega)]
  have hlt : n % 2 ^ 32 < 2 ^ 32 := Nat.mod_lt _ (by norm_num)
  omega

lemma cString_eq_self_iff (s : Text) : cString s = s ↔ 0 ∉ s := by
  unfold cString
  rw [List.takeWhile_eq_self_iff]
  constructor
  · intro h h0
    simpa using h 0 h0
  · intro h byte hbyte
    have hne : byte ≠ 0 := fun h0 => h (h0 ▸ hbyte)
    simpa using hne

lemma length_cString_le (s : Text) : (cString s).length ≤ s.length :=
  (List.takeWhile_sublist _).length_le

/-- What is read back after a text was stored. -/
def readBack (s : Text) : Text :=
  cString (bindText s)

theorem readBack_eq_self_iff (s : Text) : readBack s = s ↔ Storable s := by
  unfold readBack bindText Storable
  by_cases hsmall : s.length % 2 ^ 32 < 2 ^ 31
  · have hcast : castInt s.length = (s.length % 2 ^ 32 : Nat) := castInt_of_small hsmall
    rw [if_neg (by omega), hcast, Int.toNat_natCast]
    constructor
    · intro h
      have hlen := length_cString_le (s.take (s.length % 2 ^ 32))
      rw [h, List.length_take] at hlen
      have hlt : s.length < 2 ^ 31 := by omega
      have htake : s.take (s.length % 2 ^ 32) = s := List.take_of_length_le (by omega)
      rw [htake, cString_eq_self_iff] at h
      exact ⟨h, fun _ => hlt⟩
    · rintro ⟨hnul, hfits⟩
      have hlt := hfits hsmall
      rw [List.take_of_length_le (by omega)]
      exact (cString_eq_self_iff s).mpr hnul
  · rw [if_pos (castInt_neg_of_large hsmall)]
    constructor
    · intro h
      have hlen := length_cString_le (cString s)
      rw [h] at hlen
      have hwhole : cString s = s := (List.takeWhile_prefix _).eq_of_length_le hlen
      exact ⟨(cString_eq_self_iff s).mp hwhole, fun hlt => absurd hlt hsmall⟩
    · rintro ⟨hnul, -⟩
      have hwhole := (cString_eq_self_iff s).mpr hnul
      rw [hwhole, hwhole]

lemma bindText_of_storable {s : Text} (h : Storable s) : bindText s = s := by
  have hlen := length_cString_le (bindText s)
  have hback : cString (bindText s) = s := (readBack_eq_self_iff s).mpr h
  rw [hback] at hlen
  unfold bindText at hlen ⊢
  split
  · exact (cString_eq_self_iff s).mpr h.1
  · rename_i hcast
    rw [if_neg hcast, List.length_take] at hlen
    exact List.take_of_length_le (by omega)

namespace Database

/-- The rows stand in the order of their ids, and no id is above the sequence. -/
structure Ordered (db : Database) : Prop where
  ascending : db.rows.Pairwise (fun a b => a.id < b.id)
  bounded : ∀ r ∈ db.rows, r.id ≤ db.sequence

instance (db : Database) : Decidable db.Ordered :=
  decidable_of_iff (db.rows.Pairwise (fun a b => a.id < b.id) ∧ ∀ r ∈ db.rows, r.id ≤ db.sequence)
    ⟨fun h => ⟨h.1, h.2⟩, fun h => ⟨h.ascending, h.bounded⟩⟩

lemma ordered_empty : Ordered {} :=
  ⟨List.Pairwise.nil, by simp⟩

lemma Ordered.orderById {db : Database} (h : db.Ordered) : orderById db.rows = db.rows := by
  apply List.mergeSort_of_pairwise
  exact h.ascending.imp (fun hlt => by simpa using Nat.le_of_lt hlt)

lemma Ordered.insert {db : Database} (h : db.Ordered) (topic payload : Text) :
    (db.insert topic payload).Ordered := by
  constructor
  · refine List.pairwise_append.mpr ⟨h.ascending, List.pairwise_singleton _ _, ?_⟩
    intro r hr r' hr'
    have hle := h.bounded r hr
    rw [List.mem_singleton.mp hr']
    exact Nat.lt_succ_of_le hle
  · intro r hr
    rcases List.mem_append.mp hr with hr | hr
    · exact Nat.le_succ_of_le (h.bounded r hr)
    · exact le_of_eq (congrArg Row.id (List.mem_singleton.mp hr))

/-- Deleting the rows that hold one of the `limit` smallest ids drops the first `limit` rows. -/
lemma Ordered.rows_deleteFirst {db : Database} (h : db.Ordered) (limit : Nat) :
    (db.deleteFirst limit).rows = db.rows.drop limit := by
  have hsplit := List.take_append_drop limit db.rows
  have hids := h.ascending
  rw [← hsplit, List.pairwise_append] at hids
  obtain ⟨-, -, hacross⟩ := hids
  unfold deleteFirst
  rw [h.orderById]
  calc db.rows.filter (fun r => r.id ∉ (db.rows.take limit).map Row.id)
      = (db.rows.take limit).filter (fun r => r.id ∉ (db.rows.take limit).map Row.id) ++
        (db.rows.drop limit).filter (fun r => r.id ∉ (db.rows.take limit).map Row.id) := by
        rw [← List.filter_append, hsplit]
    _ = [] ++ db.rows.drop limit := by
        congr 1
        · rw [List.filter_eq_nil_iff]
          intro r hr
          have hmem : r.id ∈ (db.rows.take limit).map Row.id := List.mem_map_of_mem hr
          simpa only [decide_eq_true_eq, not_not] using hmem
        · rw [List.filter_eq_self]
          intro r hr
          have hmem : r.id ∉ (db.rows.take limit).map Row.id := by
            rw [List.mem_map]
            rintro ⟨r', hr', heq⟩
            exact absurd heq (Nat.ne_of_lt (hacross r' hr' r hr))
          simpa only [decide_eq_true_eq] using hmem
    _ = db.rows.drop limit := List.nil_append _

lemma Ordered.deleteFirst {db : Database} (h : db.Ordered) (limit : Nat) :
    (db.deleteFirst limit).Ordered := by
  have hsub : (db.deleteFirst limit).rows.Sublist db.rows := by
    rw [h.rows_deleteFirst]
    exact List.drop_sublist _ _
  exact ⟨h.ascending.sublist hsub, fun r hr => h.bounded r (hsub.subset hr)⟩

end Database

/-! ### What a call leaves behind, whatever fails -/

namespace SqliteCache

variable {c c' : SqliteCache} {fault : Option SqlFault}

lemma append_cases {topic payload : Text} {done : Bool}
    (h : c.append fault topic payload = (done, c')) :
    done = true ∧ c'.database = c.database.insert (bindText topic) (bindText payload) ∨
    done = false ∧ c'.database = c.database := by
  unfold append at h
  split at h
  · cases h
    exact .inr ⟨rfl, rfl⟩
  · split at h <;> cases h
    · exact .inr ⟨rfl, rfl⟩
    · exact .inr ⟨rfl, rfl⟩
    · exact .inr ⟨rfl, rfl⟩
    · exact .inl ⟨rfl, rfl⟩

lemma loadAll_cases {messages : List CachedMessage} (h : c.loadAll fault = (messages, c')) :
    c'.database = c.database ∧ (messages = [] ∨ messages =
      (Database.orderById c.database.rows).map (fun r => ⟨cString r.topic, cString r.payload⟩)) := by
  unfold loadAll at h
  split at h
  · cases h
    exact ⟨rfl, .inl rfl⟩
  · split at h <;> cases h
    · exact ⟨rfl, .inl rfl⟩
    · exact ⟨rfl, .inl rfl⟩
    · exact ⟨rfl, .inl rfl⟩
    · exact ⟨rfl, .inr rfl⟩

lemma removeFirst_cases {count : Nat} {done : Bool} (h : c.removeFirst fault count = (done, c')) :
    done = true ∧ c'.database = c.database.deleteFirst count ∨ c'.database = c.database := by
  unfold removeFirst at h
  split at h
  · cases h
    exact .inr rfl
  · split at h
    · cases h
      exact .inr rfl
    · split at h <;> cases h
      · exact .inr rfl
      · exact .inr rfl
      · exact .inr rfl
      · exact .inl ⟨rfl, rfl⟩

end SqliteCache

end EdgeGateway
