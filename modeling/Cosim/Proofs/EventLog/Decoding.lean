import Cosim.Proofs.EventLog.RoundTrip

namespace Cosim.Proofs.EventLog.Decoding

open Cosim.Json Cosim.Text Cosim.Trace Cosim.Trace.EventLine
open Cosim.Proofs.CommitLine.RoundTrip Cosim.Proofs.EventLog.RoundTrip Cosim.Proofs.Outcome

/-- What the value of a member has to be: a text, or an integer without sign of so many bits. -/
inductive Shape where
  | text
  | word (bits : Nat)

/-- No truth value is an integer, and no number that is written with a fraction or an exponent. -/
inductive Admits : Shape → Value → Prop
  | text (s : Wide) : Admits .text (.text s)
  | word {bits : Nat} {n : Int} (h : IsUnsigned bits n) : Admits (.word bits) (.int n)

def required : Kind → List (String × Shape)
  | .memory => [("action", .text), ("bytes", .word 8), ("address", .word 64)]
  | .change => [("action", .text), ("pc", .word 64), ("reg_idx", .word 8), ("data", .word 64)]
  | .fetch => [("data", .word 32)]
  | .reset => [("new_addr", .word 64)]

structure IsComplete (fields : List (Wide × Value)) (k : Kind) : Prop where
  kind : fields.lookup ↑"event_type" = some (.text k.name)
  members : ∀ m ∈ required k, ∃ v, fields.lookup ↑m.1 = some v ∧ Admits m.2 v

/-- The members name the same kind, or neither names one, and agree on what that kind requires. -/
structure Agree (fields fields' : List (Wide × Value)) : Prop where
  kind : fields.lookup ↑"event_type" = fields'.lookup ↑"event_type"
  members : ∀ k : Kind, fields.lookup ↑"event_type" = some (.text k.name) →
    ∀ m ∈ required k, fields.lookup ↑m.1 = fields'.lookup ↑m.1

section Members

variable {fields fields' : List (Wide × Value)} {key : String}

theorem text_congr (h : fields.lookup ↑key = fields'.lookup ↑key) :
    text fields key = text fields' key := by
  rw [text, text, h]

theorem number_congr (h : fields.lookup ↑key = fields'.lookup ↑key) (bits : Nat) :
    number fields key bits = number fields' key bits := by
  rw [number, number, h]

end Members

section Fields

variable {fields fields' : List (Wide × Value)} {e : Event} {k : Kind}

theorem ofFields_congr (h : ∀ m ∈ required k, fields.lookup ↑m.1 = fields'.lookup ↑m.1) :
    ofFields fields k = ofFields fields' k := by
  cases k with
  | memory =>
    simp only [required, List.forall_mem_cons] at h
    obtain ⟨ha, hb, hd, -⟩ := h
    rw [ofFields, ofFields, text_congr ha, number_congr hb, number_congr hd]
  | change =>
    simp only [required, List.forall_mem_cons] at h
    obtain ⟨ha, hp, hr, hd, -⟩ := h
    rw [ofFields, ofFields, text_congr ha, number_congr hp, number_congr hr, number_congr hd]
  | fetch =>
    simp only [required, List.forall_mem_cons] at h
    rw [ofFields, ofFields, number_congr h.1]
  | reset =>
    simp only [required, List.forall_mem_cons] at h
    rw [ofFields, ofFields, number_congr h.1]

theorem describes_of_ofFields (h : ofFields fields k = .ok e) :
    kind e = k ∧ Fits e ∧ ∀ m ∈ (describing e).tail, fields.lookup m.1 = some m.2 := by
  cases k <;> simp only [ofFields, bind_eq_ok, text_eq_ok, number_eq_ok] at h
  case memory =>
    obtain ⟨action, ha, width, ⟨hw, hwu⟩, address, ⟨hd, hdu⟩, ⟨⟩⟩ := h
    exact ⟨rfl, ⟨hwu, hdu⟩, by simp [describing, ha, hw, hd]⟩
  case change =>
    obtain ⟨action, ha, pc, ⟨hp, hpu⟩, register, ⟨hr, hru⟩, value, ⟨hv, hvu⟩, ⟨⟩⟩ := h
    exact ⟨rfl, ⟨hpu, hru, hvu⟩, by simp [describing, ha, hp, hr, hv]⟩
  case fetch =>
    obtain ⟨word, ⟨hw, hwu⟩, ⟨⟩⟩ := h
    exact ⟨rfl, hwu, by simp [describing, hw]⟩
  case reset =>
    obtain ⟨target, ⟨ht, htu⟩, ⟨⟩⟩ := h
    exact ⟨rfl, htu, by simp [describing, ht]⟩

theorem exists_described (he : Fits e) :
    ∀ m ∈ required (kind e), ∃ v, (↑m.1, v) ∈ describing e ∧ Admits m.2 v := by
  cases e with
  | memory action width address =>
    simp only [kind, required, List.forall_mem_cons]
    exact ⟨⟨_, by simp [describing], .text action⟩, ⟨_, by simp [describing], .word he.1⟩,
      ⟨_, by simp [describing], .word he.2⟩, List.forall_mem_nil _⟩
  | change c =>
    simp only [kind, required, List.forall_mem_cons]
    exact ⟨⟨_, by simp [describing], .text c.action⟩, ⟨_, by simp [describing], .word he.1⟩,
      ⟨_, by simp [describing], .word he.2.1⟩, ⟨_, by simp [describing], .word he.2.2⟩,
      List.forall_mem_nil _⟩
  | fetch word =>
    simp only [kind, required, List.forall_mem_cons]
    exact ⟨⟨_, by simp [describing], .word he⟩, List.forall_mem_nil _⟩
  | reset target =>
    simp only [kind, required, List.forall_mem_cons]
    exact ⟨⟨_, by simp [describing], .word he⟩, List.forall_mem_nil _⟩

theorem Admits.exists_text {v : Value} (h : Admits .text v) : ∃ s, v = .text s := by
  cases h with
  | text s => exact ⟨s, rfl⟩

theorem Admits.exists_word {bits : Nat} {v : Value} (h : Admits (.word bits) v) :
    ∃ n, v = .int n ∧ IsUnsigned bits n := by
  cases h with
  | word h => exact ⟨_, rfl, h⟩

theorem IsComplete.exists_event (h : IsComplete fields k) :
    ∃ e, Fits e ∧ ∀ m ∈ describing e, fields.lookup m.1 = some m.2 := by
  obtain ⟨hkind, hmembers⟩ := h
  cases k <;> simp only [required, List.forall_mem_cons] at hmembers
  case memory =>
    obtain ⟨⟨_, ha, hat⟩, ⟨_, hw, hww⟩, ⟨_, hd, hdw⟩, -⟩ := hmembers
    obtain ⟨action, rfl⟩ := hat.exists_text
    obtain ⟨width, rfl, hwu⟩ := hww.exists_word
    obtain ⟨address, rfl, hdu⟩ := hdw.exists_word
    exact ⟨.memory action width address, ⟨hwu, hdu⟩,
      by simp [describing, hkind, ha, hw, hd, Kind.name]⟩
  case change =>
    obtain ⟨⟨_, ha, hat⟩, ⟨_, hp, hpw⟩, ⟨_, hr, hrw⟩, ⟨_, hv, hvw⟩, -⟩ := hmembers
    obtain ⟨action, rfl⟩ := hat.exists_text
    obtain ⟨pc, rfl, hpu⟩ := hpw.exists_word
    obtain ⟨register, rfl, hru⟩ := hrw.exists_word
    obtain ⟨value, rfl, hvu⟩ := hvw.exists_word
    exact ⟨.change ⟨action, pc, register, value⟩, ⟨hpu, hru, hvu⟩,
      by simp [describing, hkind, ha, hp, hr, hv, Kind.name]⟩
  case fetch =>
    obtain ⟨⟨_, hw, hww⟩, -⟩ := hmembers
    obtain ⟨word, rfl, hwu⟩ := hww.exists_word
    exact ⟨.fetch word, hwu, by simp [describing, hkind, hw, Kind.name]⟩
  case reset =>
    obtain ⟨⟨_, ht, htw⟩, -⟩ := hmembers
    obtain ⟨target, rfl, htu⟩ := htw.exists_word
    exact ⟨.reset target, htu, by simp [describing, hkind, ht, Kind.name]⟩

end Fields

section Values

variable {v : Value} {e : Event} {outer outer' fields fields' : List (Wide × Value)}

theorem ofName?_eq_some {name : Wide} {k : Kind} :
    Kind.ofName? name = some k ↔ name = ↑k.name := by
  constructor
  · intro h
    have hname := List.find?_some h
    exact (eq_of_beq hname).symm
  · rintro rfl
    exact ofName?_name k

theorem describing_eq_cons (e : Event) :
    describing e = (↑"event_type", .text (kind e).name) :: (describing e).tail := by
  cases e <;> rfl

theorem ofValue_eq_ok : ofValue v = .ok e ↔
    ∃ outer fields, v = .record outer ∧ outer.lookup ↑"fields" = some (.record fields) ∧ Fits e ∧
      ∀ m ∈ describing e, fields.lookup m.1 = some m.2 := by
  constructor
  · intro h
    unfold ofValue at h
    split at h
    · rename_i outer
      split at h
      · rename_i fields hfields
        obtain ⟨name, hname, h⟩ := bind_eq_ok.mp h
        split at h
        · rename_i k hk
          obtain rfl := ofName?_eq_some.mp hk
          obtain ⟨rfl, hfits, hrest⟩ := describes_of_ofFields h
          refine ⟨outer, fields, rfl, hfields, hfits, ?_⟩
          rw [describing_eq_cons]
          exact List.forall_mem_cons.mpr ⟨text_eq_ok.mp hname, hrest⟩
        · cases h
      · cases h
    · cases h
  · rintro ⟨outer, fields, rfl, hfields, hfits, h⟩
    exact ofValue_of_lookup hfits h hfields

theorem exists_event_iff : (∃ e, ofValue v = .ok e) ↔
    ∃ outer fields k, v = .record outer ∧ outer.lookup ↑"fields" = some (.record fields) ∧
      IsComplete fields k := by
  constructor
  · rintro ⟨e, he⟩
    obtain ⟨outer, fields, rfl, hfields, hfits, h⟩ := ofValue_eq_ok.mp he
    refine ⟨outer, fields, kind e, rfl, hfields, text_eq_ok.mp (kind_of_lookup h), ?_⟩
    intro m hm
    obtain ⟨w, hw, hadmits⟩ := exists_described hfits m hm
    exact ⟨w, h _ hw, hadmits⟩
  · rintro ⟨outer, fields, k, rfl, hfields, hcomplete⟩
    obtain ⟨e, hfits, h⟩ := hcomplete.exists_event
    exact ⟨e, ofValue_eq_ok.mpr ⟨outer, fields, rfl, hfields, hfits, h⟩⟩

theorem ofValue_congr (hf : outer.lookup ↑"fields" = some (.record fields))
    (hf' : outer'.lookup ↑"fields" = some (.record fields')) (h : Agree fields fields') :
    ofValue (.record outer) = ofValue (.record outer') := by
  rw [ofValue, ofValue, hf, hf']
  dsimp only
  rw [← text_congr h.kind]
  cases hname : text fields "event_type" with
  | error f => rfl
  | ok name =>
    simp only [bind, Except.bind]
    cases hk : Kind.ofName? name with
    | none => rfl
    | some k =>
      obtain rfl := ofName?_eq_some.mp hk
      exact ofFields_congr (h.members k (text_eq_ok.mp hname))

theorem eventLine_of_ofValue_eq_error {f : EventLine.Fault} {line : List Char}
    (hread : Reader.read line = .ok v) (h : ofValue v = .error f) (number : Int) :
    Log.eventLine number line = .error (.badLine number line (.event f)) := by
  rw [Log.eventLine, EventLine.read, hread]
  dsimp only
  rw [h]
  rfl

theorem exists_fault (h : ¬ ∃ e, ofValue v = .ok e) :
    ∃ f, ofValue v = .error f ∧ ∀ number line, Reader.read line = .ok v →
      Log.eventLine number line = .error (.badLine number line (.event f)) := by
  cases hv : ofValue v with
  | ok e => exact absurd ⟨e, hv⟩ h
  | error f =>
    exact ⟨f, rfl, fun number line hread => eventLine_of_ofValue_eq_error hread hv number⟩

end Values

/-- A value is an event exactly if its `fields` are complete for a kind, and the event holds what
their members hold. Any other value is a fault of its line. Values whose `fields` agree are the same
event or the same fault. -/
theorem event_iff_complete (v : Value) :
    (∀ e, ofValue v = .ok e ↔
      ∃ outer fields, v = .record outer ∧ outer.lookup ↑"fields" = some (.record fields) ∧ Fits e ∧
        ∀ m ∈ describing e, fields.lookup m.1 = some m.2) ∧
    ((∃ e, ofValue v = .ok e) ↔
      ∃ outer fields k, v = .record outer ∧ outer.lookup ↑"fields" = some (.record fields) ∧
        IsComplete fields k) ∧
    ((¬ ∃ e, ofValue v = .ok e) →
      ∃ f, ofValue v = .error f ∧ ∀ number line, Reader.read line = .ok v →
        Log.eventLine number line = .error (.badLine number line (.event f))) ∧
    ∀ outer outer' fields fields', v = .record outer →
      outer.lookup ↑"fields" = some (.record fields) →
      outer'.lookup ↑"fields" = some (.record fields') → Agree fields fields' →
      ofValue v = ofValue (.record outer') := by
  refine ⟨fun e => ofValue_eq_ok, exists_event_iff, exists_fault, ?_⟩
  rintro outer outer' fields fields' rfl hf hf' h
  exact ofValue_congr hf hf' h

def fetchOf (data : Value) : List (Wide × Value) :=
  [("event_type", .text "instruction_fetch"), ("data", data)]

def truthLine : List Char :=
  "\x7b\"fields\":\x7b\"event_type\":\"instruction_fetch\",\"data\":true\x7d\x7d".toList

/-- The value that a reader has for the data of a fetch, if it is a truth value. -/
def truth? {F : Type} : Except F Value → Option Bool
  | .ok (.record [(key, .record [(typeKey, .text name), (dataKey, .bool b)])]) =>
    if key = "fields" ∧ typeKey = "event_type" ∧ name = "instruction_fetch" ∧ dataKey = "data" then
      some b
    else none
  | _ => none

theorem eq_of_truth? {F : Type} {r : Except F Value} {b : Bool} (h : truth? r = some b) :
    r = .ok (.record [("fields", .record (fetchOf (.bool b)))]) := by
  unfold truth? at h
  split at h
  · split_ifs at h with hkeys
    obtain ⟨rfl, rfl, rfl, rfl⟩ := hkeys
    rw [Option.some.inj h, fetchOf]
  · cases h

/-- A fetch is the same among members of other names and in another order. It is none with a number
that is too wide, and a line that gives a truth value is a fault. -/
theorem fetch_among_others :
    ofValue (.record [("fields", .record (fetchOf (.int 19)))]) = .ok (.fetch 19) ∧
      ofValue (.record [("fields", .record (fetchOf (.int 19)))]) =
        ofValue (.record [("level", .null),
          ("fields", .record (("pc", .bool true) :: (fetchOf (.int 19)).reverse))]) ∧
      (¬ ∃ e, ofValue (.record [("fields", .record (fetchOf (.int (2 ^ 32))))]) = .ok e) ∧
      ∃ f, ∀ number,
        Log.eventLine number truthLine = .error (.badLine number truthLine (.event f)) := by
  have hagree : Agree (fetchOf (.int 19)) (("pc", .bool true) :: (fetchOf (.int 19)).reverse) := by
    refine ⟨rfl, fun k hk => ?_⟩
    cases k <;> simp [fetchOf, Kind.name, required, List.lookup_cons] at hk ⊢
  have hwide : ¬ ∃ e, ofValue (.record [("fields", .record (fetchOf (.int (2 ^ 32))))]) =
      .ok e := by
    intro h
    obtain ⟨outer, fields, k, ⟨⟩, ⟨⟩, hk, hm⟩ := (event_iff_complete _).2.1.mp h
    cases k <;> simp [fetchOf, Kind.name] at hk
    obtain ⟨v, hv, hadmits⟩ := hm _ List.mem_cons_self
    obtain ⟨n, rfl, hn⟩ := hadmits.exists_word
    cases hv
    exact absurd hn (by decide)
  have htruth : ¬ ∃ e, ofValue (.record [("fields", .record (fetchOf (.bool true)))]) = .ok e := by
    rintro ⟨e, he⟩
    cases he
  obtain ⟨f, -, hf⟩ := (event_iff_complete _).2.2.1 htruth
  have hholds : ∀ m ∈ describing (.fetch 19), (fetchOf (.int 19)).lookup m.1 = some m.2 := by
    simp [describing, fetchOf, List.lookup_cons]
  exact ⟨((event_iff_complete _).1 _).mpr ⟨_, _, rfl, rfl, by decide, hholds⟩,
    (event_iff_complete _).2.2.2 _ _ _ _ rfl rfl rfl hagree, hwide,
    f, fun number => hf number truthLine (eq_of_truth? (by decide +kernel))⟩

end Cosim.Proofs.EventLog.Decoding
