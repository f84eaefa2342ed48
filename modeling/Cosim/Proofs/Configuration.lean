import Cosim.Config
import Cosim.Proofs.Outcome

namespace Cosim.Proofs.Configuration

open Cosim.Config Cosim.Json Cosim.Text Cosim.Trace
open Cosim.Proofs.Outcome

inductive Parameter where
  | elfGlob
  | endPattern
  | boatArgs
  | spikeArgs
deriving DecidableEq

/-- The parameters as they are checked, which is not how a configuration lists them. -/
def Parameter.order : List Parameter := [.elfGlob, .endPattern, .boatArgs, .spikeArgs]

def Parameter.name : Parameter → String
  | .elfGlob => "elf_path_glob"
  | .endPattern => "end_pattern"
  | .boatArgs => "boat_args"
  | .spikeArgs => "spike_args"

/-- An end pattern may be absent or null, which both mean none. -/
inductive IsPattern : Option Value → Option EndPattern → Prop
  | absent : IsPattern none none
  | null : IsPattern (some .null) none
  | given {members : Members} {p : EndPattern}
      (h : EndPattern.ofMembers members = .ok p) : IsPattern (some (.record members)) (some p)

/-- Arguments may be absent, but not null. -/
inductive IsArgs : Option Value → List Wide → Prop
  | absent : IsArgs none []
  | given (texts : List Wide) : IsArgs (some (.list (texts.map .text))) texts

def Sets (members : Members) (c : Config) : Parameter → Prop
  | .elfGlob => members.lookup ↑"elf_path_glob" = some (.text c.elfGlob) ∧ c.elfGlob ≠ []
  | .endPattern => IsPattern (members.lookup ↑"end_pattern") c.endPattern
  | .boatArgs => IsArgs (members.lookup ↑"boat_args") c.boatArgs
  | .spikeArgs => IsArgs (members.lookup ↑"spike_args") c.spikeArgs

def IsRight (members : Members) (p : Parameter) : Prop := ∃ c, Sets members c p

def IsFirstWrong (members : Members) (p : Parameter) : Prop :=
  ∃ before after, Parameter.order = before ++ p :: after ∧ (∀ q ∈ before, IsRight members q) ∧
    ¬ IsRight members p

def leads (p : Parameter) : List String :=
  ["Parameter " ++ p.name ++ " must be ", "Invalid " ++ p.name ++ ": "]

/-- A message is about a parameter: it tells what the parameter must be, or why it is invalid. -/
def Names (message : String) (p : Parameter) : Prop :=
  ∃ lead ∈ leads p, lead.toList <+: message.toList

instance (message : String) (p : Parameter) : Decidable (Names message p) :=
  inferInstanceAs (Decidable (∃ lead ∈ leads p, lead.toList <+: message.toList))

section Parameters

variable {members members' : Members} {key message : String} {s : Wide} {texts : List Wide}
  {f : Config.Fault}

theorem glob_eq_ok :
    glob members = .ok s ↔ members.lookup ↑"elf_path_glob" = some (.text s) ∧ s ≠ [] := by
  unfold glob
  cases members.lookup ↑"elf_path_glob" with
  | none => simp
  | some v =>
    cases v with
    | text t =>
      by_cases ht : t = []
      · subst t
        simp
      · have hne : t.isEmpty = false := by simpa using ht
        simp only [hne, Bool.false_eq_true, ↓reduceIte, Except.ok.injEq, Option.some.injEq,
          Value.text.injEq]
        constructor
        · rintro rfl
          exact ⟨rfl, ht⟩
        · exact And.left
    | _ => simp

theorem pattern_eq_ok {p : Option EndPattern} :
    pattern members = .ok p ↔ IsPattern (members.lookup ↑"end_pattern") p := by
  unfold pattern
  constructor
  · intro h
    split at h
    · cases h
      rename_i hnone
      rw [hnone]
      exact .absent
    · cases h
      rename_i hnull
      rw [hnull]
      exact .null
    · rename_i hms
      rw [hms]
      split at h
      · cases h
        exact .given (by assumption)
      · cases h
    · cases h
  · intro h
    -- the specification speaks of the member only
    generalize members.lookup ↑"end_pattern" = v at h
    cases h with
    | absent => rfl
    | null => rfl
    | given h =>
      dsimp only
      rw [h]

theorem mapM_text?_eq_some {items : List Value} :
    items.mapM text? = some texts ↔ items = texts.map .text := by
  induction items generalizing texts with
  | nil => cases texts <;> simp
  | cons v items ih =>
    cases v with
    | text s => cases texts <;> simp [text?, Option.bind_eq_some_iff, ih, and_comm]
    | _ => cases texts <;> simp [text?]

theorem args_eq_ok : args members key = .ok texts ↔ IsArgs (members.lookup ↑key) texts := by
  unfold args
  constructor
  · intro h
    split at h
    · cases h
      rename_i hnone
      rw [hnone]
      exact .absent
    · rename_i hitems
      rw [hitems]
      split at h
      · rename_i htexts
        cases h
        rw [mapM_text?_eq_some.mp htexts]
        exact .given texts
      · cases h
    · cases h
  · intro h
    generalize members.lookup ↑key = v at h
    cases h with
    | absent => rfl
    | given =>
      dsimp only
      rw [mapM_text?_eq_some.mpr rfl]

theorem names_append {p : Parameter} (h : Names message p) (t : String) :
    Names (message ++ t) p := by
  obtain ⟨lead, hlead, hs⟩ := h
  refine ⟨lead, hlead, ?_⟩
  rw [String.toList_append]
  exact hs.trans (List.prefix_append ..)

theorem glob_names (h : glob members = .error f) (style : Value.RecordStyle) :
    Names (f.message style) .elfGlob := by
  obtain ⟨v, rfl⟩ : ∃ v, f = .badGlob v := by
    unfold glob at h
    split at h
    · split at h
      · cases h
        exact ⟨_, rfl⟩
      · cases h
    · cases h
      exact ⟨_, rfl⟩
    · cases h
      exact ⟨_, rfl⟩
  exact names_append (by decide) _

theorem pattern_names (h : pattern members = .error f) (style : Value.RecordStyle) :
    Names (f.message style) .endPattern := by
  unfold pattern at h
  split at h
  · cases h
  · cases h
  · split at h
    · cases h
    · cases h
      exact names_append (by decide) _
  · cases h
    exact names_append (by decide) _

theorem args_names {p : Parameter} (h : args members p.name = .error f)
    (style : Value.RecordStyle) : Names (f.message style) p := by
  obtain ⟨v, rfl⟩ : ∃ v, f = .badArgs p.name v := by
    unfold args at h
    split at h
    · cases h
    · split at h
      · cases h
      · cases h
        exact ⟨_, rfl⟩
    · cases h
      exact ⟨_, rfl⟩
  refine names_append ?_ _
  cases p <;> decide

theorem leads_apart : ∀ p q : Parameter, ∀ lead ∈ leads p, ∀ lead' ∈ leads q,
    lead.toList <+: lead'.toList → p = q := by
  intro p q
  cases p <;> cases q <;> decide

theorem Names.unique {p q : Parameter} (hp : Names message p)
    (hq : Names message q) : p = q := by
  obtain ⟨lead, hlead, h⟩ := hp
  obtain ⟨lead', hlead', h'⟩ := hq
  obtain hle | hle := List.prefix_or_prefix_of_prefix h h'
  · exact leads_apart p q lead hlead lead' hlead' hle
  · exact (leads_apart q p lead' hlead' lead hlead hle).symm

end Parameters

section Order

variable {members members' : Members} {c : Config} {f : Config.Fault} {p : Parameter}

def check (members : Members) : Parameter → Except Config.Fault Unit
  | .elfGlob => (glob members).map fun _ => ()
  | .endPattern => (pattern members).map fun _ => ()
  | .boatArgs => (args members "boat_args").map fun _ => ()
  | .spikeArgs => (args members "spike_args").map fun _ => ()

theorem check_eq_ok : check members p = .ok () ↔ IsRight members p := by
  cases p <;> simp only [check, map_eq_ok, and_true, glob_eq_ok, pattern_eq_ok, args_eq_ok]
  case elfGlob => exact ⟨fun ⟨s, h⟩ => ⟨⟨s, [], [], none⟩, h⟩, fun ⟨c, h⟩ => ⟨_, h⟩⟩
  case endPattern => exact ⟨fun ⟨p, h⟩ => ⟨⟨[], [], [], p⟩, h⟩, fun ⟨c, h⟩ => ⟨_, h⟩⟩
  case boatArgs => exact ⟨fun ⟨ts, h⟩ => ⟨⟨[], ts, [], none⟩, h⟩, fun ⟨c, h⟩ => ⟨_, h⟩⟩
  case spikeArgs => exact ⟨fun ⟨ts, h⟩ => ⟨⟨[], [], ts, none⟩, h⟩, fun ⟨c, h⟩ => ⟨_, h⟩⟩

theorem check_names (h : check members p = .error f) (style : Value.RecordStyle) :
    Names (f.message style) p := by
  cases p <;> rw [check, map_eq_error] at h
  case elfGlob => exact glob_names h style
  case endPattern => exact pattern_names h style
  case boatArgs => exact args_names h style
  case spikeArgs => exact args_names h style

theorem ofValue_record_eq_ok :
    ofValue (.record members) = .ok c ↔ ∀ p, Sets members c p := by
  simp only [ofValue, bind_eq_ok, glob_eq_ok, pattern_eq_ok, args_eq_ok]
  constructor
  · rintro ⟨s, hs, p, hp, bs, hbs, ss, hss, ⟨⟩⟩ q
    cases q
    · exact hs
    · exact hp
    · exact hbs
    · exact hss
  · intro h
    exact ⟨_, h .elfGlob, _, h .endPattern, _, h .boatArgs, _, h .spikeArgs, rfl⟩

theorem map_ofValue_record (members : Members) :
    (ofValue (.record members)).map (fun _ => ()) =
      (Parameter.order.mapM (check members)).map fun _ => () := by
  simp only [ofValue, Parameter.order, List.mapM_cons, List.mapM_nil, check]
  cases glob members with
  | error g => rfl
  | ok s =>
    cases pattern members with
    | error g => rfl
    | ok e =>
      cases args members "boat_args" with
      | error g => rfl
      | ok bs => cases args members "spike_args" <;> rfl

theorem exists_firstWrong (h : ofValue (.record members) = .error f) :
    ∃ p, IsFirstWrong members p ∧ ∀ style q, Names (f.message style) q ↔ q = p := by
  have hchecks : Parameter.order.mapM (check members) = .error f := by
    rwa [← map_eq_error, ← map_ofValue_record, map_eq_error]
  obtain ⟨before, p, after, horder, hbefore, hp⟩ := mapM_eq_error.mp hchecks
  refine ⟨p, ⟨before, after, horder, ?_, ?_⟩, fun style q => ⟨fun hq => ?_, ?_⟩⟩
  · intro q hq
    obtain ⟨⟨⟩, hok⟩ := hbefore q hq
    exact check_eq_ok.mp hok
  · intro hright
    rw [check_eq_ok.mpr hright] at hp
    cases hp
  · exact hq.unique (check_names hp style)
  · rintro rfl
    exact check_names hp style

theorem ofValue_congr (h : ∀ p : Parameter, members.lookup ↑p.name = members'.lookup ↑p.name) :
    ofValue (.record members) = ofValue (.record members') := by
  have hglob : members.lookup ↑"elf_path_glob" = members'.lookup ↑"elf_path_glob" := h .elfGlob
  have hpattern : members.lookup ↑"end_pattern" = members'.lookup ↑"end_pattern" := h .endPattern
  have hboat : members.lookup ↑"boat_args" = members'.lookup ↑"boat_args" := h .boatArgs
  have hspike : members.lookup ↑"spike_args" = members'.lookup ↑"spike_args" := h .spikeArgs
  simp only [ofValue, glob, pattern, args, hglob, hpattern, hboat, hspike]

theorem exists_sets (h : ∀ p, IsRight members p) : ∃ c, ∀ p, Sets members c p := by
  obtain ⟨cg, hglob⟩ := h .elfGlob
  obtain ⟨cp, hpattern⟩ := h .endPattern
  obtain ⟨cb, hboat⟩ := h .boatArgs
  obtain ⟨cs, hspike⟩ := h .spikeArgs
  refine ⟨⟨cg.elfGlob, cb.boatArgs, cs.spikeArgs, cp.endPattern⟩, fun p => ?_⟩
  cases p
  · exact hglob
  · exact hpattern
  · exact hboat
  · exact hspike

end Order

section Values

variable {v : Value} {c : Config} {f : Config.Fault}

theorem ofValue_eq_ok :
    ofValue v = .ok c ↔ ∃ members, v = .record members ∧ ∀ p, Sets members c p := by
  cases v with
  | record members =>
    rw [ofValue_record_eq_ok]
    constructor
    · intro h
      exact ⟨members, rfl, h⟩
    · rintro ⟨_, ⟨⟩, h⟩
      exact h
  | _ => exact ⟨nofun, nofun⟩

theorem exists_config_iff :
    (∃ c, ofValue v = .ok c) ↔ ∃ members, v = .record members ∧ ∀ p, IsRight members p := by
  constructor
  · rintro ⟨c, hc⟩
    obtain ⟨members, rfl, h⟩ := ofValue_eq_ok.mp hc
    exact ⟨members, rfl, fun p => ⟨c, h p⟩⟩
  · rintro ⟨members, rfl, h⟩
    obtain ⟨c, hc⟩ := exists_sets h
    exact ⟨c, ofValue_record_eq_ok.mpr hc⟩

theorem blame_of_ofValue_eq_error (h : ofValue v = .error f) :
    (f = .notRecord ∧ ∀ members, v ≠ .record members) ∨
      ∃ members p, v = .record members ∧ IsFirstWrong members p ∧
        ∀ style q, Names (f.message style) q ↔ q = p := by
  cases v with
  | record members =>
    obtain ⟨p, hp, hnames⟩ := exists_firstWrong h
    exact .inr ⟨members, p, rfl, hp, hnames⟩
  | _ =>
    cases h
    exact .inl ⟨rfl, nofun⟩

end Values

/-- A value is a configuration exactly if it is a record whose parameters are all right, and the
configuration has what they set. Any other value is a fault, which is about the first parameter that
is wrong. Members of other names do not matter. -/
theorem config_iff_right (v : Value) :
    (∀ c, ofValue v = .ok c ↔ ∃ members, v = .record members ∧ ∀ p, Sets members c p) ∧
    ((∃ c, ofValue v = .ok c) ↔ ∃ members, v = .record members ∧ ∀ p, IsRight members p) ∧
    ((¬ ∃ c, ofValue v = .ok c) → ∃ f, ofValue v = .error f ∧
      ((f = .notRecord ∧ ∀ members, v ≠ .record members) ∨
        ∃ members p, v = .record members ∧ IsFirstWrong members p ∧
          ∀ style q, Names (f.message style) q ↔ q = p)) ∧
    ∀ members members', v = .record members →
      (∀ p : Parameter, members.lookup ↑p.name = members'.lookup ↑p.name) →
      ofValue v = ofValue (.record members') := by
  refine ⟨fun c => ofValue_eq_ok, exists_config_iff, fun h => ?_, ?_⟩
  · cases hv : ofValue v with
    | ok c => exact absurd ⟨c, hv⟩ h
    | error f => exact ⟨f, rfl, blame_of_ofValue_eq_error hv⟩
  · rintro members members' rfl h
    exact ofValue_congr h

/-- Members that set the glob and the arguments of one simulator, and others. -/
def withOthers (others : Members) : Members :=
  ("author", .int 3) :: ("spike_args", .list [.text "-l", .text []]) ::
    ("elf_path_glob", .text "elfs/*.elf") :: others

def nullPattern : Members := withOthers [("end_pattern", .null)]

def nullArgs : Members :=
  withOthers [("boat_args", .null), ("end_pattern", .int 5)]

/-- A null pattern is none. Where the pattern and the arguments are wrong, the pattern is the first,
wherever the two stand. -/
theorem pattern_before_args :
    ofValue (.record nullPattern) = .ok ⟨"elfs/*.elf", [], ["-l", []], none⟩ ∧
      ofValue (.record nullPattern) = ofValue (.record nullPattern.reverse.dropLast) ∧
      ofValue (.record nullArgs) = .error (.patternNotRecord (.int 5)) ∧
      IsFirstWrong nullArgs .endPattern := by
  have hsets : ∀ p, Sets nullPattern ⟨"elfs/*.elf", [], ["-l", []], none⟩ p := by
    intro p
    cases p
    · exact ⟨rfl, by decide⟩
    · exact .null
    · exact .absent
    · exact .given ["-l", []]
  have hwrong : ofValue (.record nullArgs) = .error (.patternNotRecord (.int 5)) := rfl
  have hpattern : pattern nullArgs = .error (.patternNotRecord (.int 5)) := rfl
  refine ⟨((config_iff_right _).1 _).mpr ⟨_, rfl, hsets⟩,
    (config_iff_right _).2.2.2 _ _ rfl fun p => by cases p <;> rfl, hwrong, ?_⟩
  have hnone : ¬ ∃ c, ofValue (.record nullArgs) = .ok c := by
    rintro ⟨c, hc⟩
    cases hwrong.symm.trans hc
  obtain ⟨f, hf, ⟨-, hno⟩ | ⟨_, p, ⟨⟩, hp, hnames⟩⟩ := (config_iff_right _).2.2.1 hnone
  · exact absurd rfl (hno _)
  · cases hwrong.symm.trans hf
    obtain rfl := (hnames .pairs .endPattern).mp (pattern_names hpattern .pairs)
    exact hp

end Cosim.Proofs.Configuration
