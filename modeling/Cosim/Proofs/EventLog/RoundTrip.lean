import Cosim.Proofs.CommitLine.RoundTrip
import Cosim.Proofs.Json.Documents
import Cosim.Proofs.Json.Members

namespace Cosim.Proofs.EventLog.RoundTrip

open Cosim.Json Cosim.Numeral Cosim.Text Cosim.Text.Blank Cosim.Trace Cosim.Trace.EventLine
open Cosim.Proofs.CommitLine.RoundTrip Cosim.Proofs.Json.Grammar Cosim.Proofs.Json.Documents
open Cosim.Proofs.Json.Members Cosim.Proofs.LogLines Cosim.Proofs.Outcome Cosim.Proofs.Text.Words

/-- The numbers of an event fit the fields of the log. -/
def Fits : Event → Prop
  | .memory _ width address => IsUnsigned 8 width ∧ IsUnsigned 64 address
  | .change c => IsUnsigned 64 c.pc ∧ IsUnsigned 8 c.register ∧ IsUnsigned 64 c.value
  | .fetch word => IsUnsigned 32 word
  | .reset target => IsUnsigned 64 target

instance : DecidablePred Fits
  | .memory _ _ _ => inferInstanceAs (Decidable (_ ∧ _))
  | .change _ => inferInstanceAs (Decidable (_ ∧ _))
  | .fetch _ => inferInstanceAs (Decidable (IsUnsigned _ _))
  | .reset _ => inferInstanceAs (Decidable (IsUnsigned _ _))

def describing : Event → List (Wide × Value)
  | .memory action width address =>
    [("event_type", .text "physical_memory"), ("action", .text action), ("bytes", .int width),
      ("address", .int address)]
  | .change c =>
    [("event_type", .text "arch_state"), ("action", .text c.action), ("pc", .int c.pc),
      ("reg_idx", .int c.register), ("data", .int c.value)]
  | .fetch word => [("event_type", .text "instruction_fetch"), ("data", .int word)]
  | .reset target => [("event_type", .text "reset_vector"), ("new_addr", .int target)]

/-- A line holds a record, a member of it a record that describes the event. Both may have further
members, and the members of both may stand in any order. -/
def IsLineOf (e : Event) (line : List Char) : Prop :=
  ∃ outer fields, IsDocument line (.record (collect outer)) ∧
    HasMembers outer [("fields", .record (collect fields))] ∧ HasMembers fields (describing e)

section Fields

variable {fields : List (Wide × Value)} {e : Event}

def kind : Event → Kind
  | .memory _ _ _ => .memory
  | .change _ => .change
  | .fetch _ => .fetch
  | .reset _ => .reset

theorem nodup_describing (e : Event) : ((describing e).map Prod.fst).Nodup := by
  cases e <;> simp [describing]

theorem text_eq_ok {key : String} {s : Wide} :
    text fields key = .ok s ↔ fields.lookup ↑key = some (.text s) := by
  unfold text
  cases fields.lookup ↑key with
  | none => simp
  | some v => cases v <;> simp

theorem number_eq_ok {key : String} {bits : Nat} {n : Int} : number fields key bits = .ok n ↔
    fields.lookup ↑key = some (.int n) ∧ IsUnsigned bits n := by
  unfold number
  cases fields.lookup ↑key with
  | none => simp
  | some v =>
    cases v with
    | int m =>
      by_cases hm : 0 ≤ m ∧ m < 2 ^ bits
      · simp only [if_pos hm, Except.ok.injEq, Option.some.injEq, Value.int.injEq]
        constructor
        · rintro rfl
          exact ⟨rfl, hm⟩
        · exact And.left
      · simp only [if_neg hm, reduceCtorEq, Option.some.injEq, Value.int.injEq, false_iff, not_and]
        rintro rfl
        exact hm
    | _ => simp

theorem ofName?_name (k : Kind) : Kind.ofName? k.name = some k := by
  cases k <;> decide

theorem kind_of_lookup (h : ∀ m ∈ describing e, fields.lookup m.1 = some m.2) :
    text fields "event_type" = .ok ↑(kind e).name := by
  cases e <;> exact text_eq_ok.mpr (h _ List.mem_cons_self)

theorem ofFields_of_lookup (he : Fits e)
    (h : ∀ m ∈ describing e, fields.lookup m.1 = some m.2) : ofFields fields (kind e) = .ok e := by
  cases e with
  | memory action width address =>
    have ha := text_eq_ok.mpr (h ("action", .text action) (by simp [describing]))
    have hw := number_eq_ok.mpr ⟨h ("bytes", .int width) (by simp [describing]), he.1⟩
    have hd := number_eq_ok.mpr ⟨h ("address", .int address) (by simp [describing]), he.2⟩
    rw [kind, ofFields, ha, hw, hd]
    rfl
  | change c =>
    have ha := text_eq_ok.mpr (h ("action", .text c.action) (by simp [describing]))
    have hp := number_eq_ok.mpr ⟨h ("pc", .int c.pc) (by simp [describing]), he.1⟩
    have hr := number_eq_ok.mpr ⟨h ("reg_idx", .int c.register) (by simp [describing]), he.2.1⟩
    have hv := number_eq_ok.mpr ⟨h ("data", .int c.value) (by simp [describing]), he.2.2⟩
    rw [kind, ofFields, ha, hp, hr, hv]
    rfl
  | fetch word =>
    have hw := number_eq_ok.mpr ⟨h ("data", .int word) (by simp [describing]), he⟩
    rw [kind, ofFields, hw]
    rfl
  | reset target =>
    have ht := number_eq_ok.mpr ⟨h ("new_addr", .int target) (by simp [describing]), he⟩
    rw [kind, ofFields, ht]
    rfl

theorem ofValue_of_lookup (he : Fits e) (h : ∀ m ∈ describing e, fields.lookup m.1 = some m.2)
    {outer : List (Wide × Value)} (hf : outer.lookup ↑"fields" = some (.record fields)) :
    ofValue (.record outer) = .ok e := by
  rw [ofValue, hf]
  dsimp only
  rw [kind_of_lookup h]
  simp only [bind, Except.bind, ofName?_name]
  exact ofFields_of_lookup he h

end Fields

section Lines

variable {e : Event} {line : List Char}

theorem read_line (he : Fits e) (h : IsLineOf e line) : EventLine.read line = .ok e := by
  obtain ⟨outer, fields, hdoc, houter, hfields⟩ := h
  have hf := houter.lookup_collect (by simp) List.mem_cons_self
  have hm : ∀ m ∈ describing e, (collect fields).lookup m.1 = some m.2 :=
    fun m hm => hfields.lookup_collect (nodup_describing e) hm
  rw [EventLine.read, read_document hdoc]
  dsimp only
  rw [ofValue_of_lookup he hm hf]
  rfl

theorem exists_braces {s : List Char} {ms : List (Wide × Value)} (h : Spells s (.record ms)) :
    ∃ body, s = '\x7b' :: (body ++ ['\x7d']) := by
  cases h with
  | emptyRecord _ | record _ => exact ⟨_, rfl⟩

theorem not_blank (h : IsLineOf e line) : line.all isBlank = false := by
  obtain ⟨outer, fields, ⟨a, s, b, rfl, -, -, hs⟩, -, -⟩ := h
  obtain ⟨body, rfl⟩ := exists_braces hs
  rw [List.all_eq_false]
  exact ⟨'\x7b', by simp, by decide⟩

theorem isLineOf_chomp (h : IsLineOf e line) : IsLineOf e (Lines.chomp line) := by
  obtain ⟨outer, fields, ⟨a, s, b, rfl, ha, hb, hv⟩, houter, hfields⟩ := h
  refine ⟨outer, fields, ?_, houter, hfields⟩
  obtain ⟨body, rfl⟩ := exists_braces hv
  have hs : a ++ (('\x7b' :: (body ++ ['\x7d'])) ++ b) = (a ++ '\x7b' :: body) ++ '\x7d' :: b := by
    simp only [List.append_assoc, List.cons_append, List.nil_append]
  obtain ⟨b', hchomp, hsub⟩ : ∃ b', Lines.chomp ((a ++ '\x7b' :: body) ++ '\x7d' :: b) =
      (a ++ '\x7b' :: body) ++ '\x7d' :: b' ∧ ∀ c ∈ b', c ∈ b := chomp_append (by decide)
  refine ⟨a, '\x7b' :: (body ++ ['\x7d']), b', ?_, ha, fun c hc => hb c (hsub c hc), hv⟩
  rw [hs, hchomp]
  simp only [List.append_assoc, List.cons_append, List.nil_append]

end Lines

/-- Lines of events, with blank lines between them, are read as the events. -/
theorem events_read_back {es : List Event} {lines : List (List Char)} (hfit : ∀ e ∈ es, Fits e)
    (hline : ∀ line ∈ lines, '\n' ∉ line) (h : IsLog IsLineOf es lines) :
    Log.events (List.intercalate ['\n'] lines) = .ok es := by
  refine readText_of_isLog (fun e he line hl => ⟨not_blank hl, fun number => ?_⟩) h hline
  exact mapError_eq_ok.mpr (read_line (hfit e he) (isLineOf_chomp hl))

section Example

theorem isLineOf_of_members {e : Event} {outer fields : List (Wide × Value)} {b : List Char}
    (hs : SpellsMembers s outer) (hb : IsSpace b)
    (houter : HasMembers outer [("fields", .record (collect fields))])
    (hfields : HasMembers fields (describing e)) :
    IsLineOf e ('\x7b' :: (s ++ ['\x7d']) ++ b) :=
  ⟨outer, fields, ⟨[], _, b, rfl, isSpace_nil, hb, .record hs⟩, houter, hfields⟩

def resetLine : List Char :=
  "\x7b\"fields\":\x7b\"event_type\":\"reset_vector\",\"new_addr\":128\x7d\x7d\r".toList

theorem isLineOf_resetLine : IsLineOf (.reset 128) resetLine := by
  have hname : IsContent "new_addr".toList "new_addr" := isContent_plain (by decide)
  have hkind : IsContent "event_type".toList "event_type" := isContent_plain (by decide)
  have htext : IsContent "reset_vector".toList "reset_vector" :=
    isContent_plain (by decide)
  have hnum : Spells "128".toList (.int 128) :=
    spells_whole ⟨by decide, by decide⟩ (by decide) (by decide)
  have hfields := spellsMembers_cons hkind (.text htext) (spellsMembers_last hname hnum)
  have hfield : IsContent "fields".toList "fields" := isContent_plain (by decide)
  have hend : IsSpace ['\r'] := by simp [IsSpace]
  have hline := isLineOf_of_members (e := .reset 128)
    (spellsMembers_last hfield (.record hfields)) hend
    ⟨[], List.Perm.refl _, nofun⟩ ⟨[], List.Perm.refl _, nofun⟩
  convert hline using 1
  decide

/-- A line with further members, with characters by number, and with the end of a paragraph inside
a string. -/
def accessLine : List Char :=
  "\x7b\"n\":[2.5,null],\"fields\":\x7b\"x\":\"\\ud800\",\"address\":4096,".toList ++
    "\"\\u0062ytes\":8,\"action\":\"\u2028\\uD834\\udd1e\",".toList ++
    "\"event_type\":\"physical_memory\"\x7d\x7d ".toList

theorem isLineOf_accessLine : IsLineOf (.memory "\u2028𝄞" 8 4096) accessLine := by
  have hkind : IsContent "event_type".toList "event_type" := isContent_plain (by decide)
  have hmemory : IsContent "physical_memory".toList "physical_memory" :=
    isContent_plain (by decide)
  have haction : IsContent "action".toList "action" := isContent_plain (by decide)
  have hpair : IsSpelling ('\\' :: 'u' :: ("D834".toList ++ '\\' :: 'u' :: "dd1e".toList)) '𝄞' :=
    .pair (by decide) ⟨by decide, by decide, by decide⟩ ⟨by decide, by decide, by decide⟩
  have hbreak : IsSpelling ['\u2028'] '\u2028' := .plain (by decide) (by decide) (by decide)
  have hclef : IsContent _ "\u2028𝄞" := .cons hbreak (.cons hpair .nil)
  have hletter : IsSpelling ('\\' :: 'u' :: "0062".toList) 'b' :=
    .number ⟨by decide, by decide, by decide⟩
  have hrest : IsContent "ytes".toList "ytes" := isContent_plain (by decide)
  have hbytes : IsContent _ "bytes" := .cons hletter hrest
  have haddress : IsContent "address".toList "address" := isContent_plain (by decide)
  have hx : IsContent "x".toList "x" := isContent_plain (by decide)
  have hquad : IsQuad (0xD800 + (0 : Fin 0x800).val) "d800".toList :=
    ⟨by decide, by decide, by decide⟩
  have hhalf := IsContent.half hquad (fun _ ⟨_, _, _, h, _⟩ => nomatch h) .nil
  have h8 : Spells "8".toList (.int 8) :=
    spells_whole ⟨by decide, by decide⟩ (by decide) (by decide)
  have h4096 : Spells "4096".toList (.int 4096) :=
    spells_whole ⟨by decide, by decide⟩ (by decide) (by decide)
  have hfields := spellsMembers_cons hx (.text hhalf)
    (spellsMembers_cons haddress h4096 (spellsMembers_cons hbytes h8
    (spellsMembers_cons haction (.text hclef)
    (spellsMembers_last hkind (.text hmemory)))))
  have hn : IsContent "n".toList "n" := isContent_plain (by decide)
  have h25 : IsNumber "2.5".toList ⟨false, "2".toList, "5".toList, none⟩ :=
    ⟨⟨by decide, by decide⟩, by decide, [], .none, by decide⟩
  have hitems := SpellsItems.cons isSpace_nil (.real h25 (.inl (by decide))) isSpace_nil
    (.last isSpace_nil .null isSpace_nil)
  have hfield : IsContent "fields".toList "fields" := isContent_plain (by decide)
  have hend : IsSpace [' '] := by simp [IsSpace]
  have hline := isLineOf_of_members (e := .memory "\u2028𝄞" 8 4096)
    (spellsMembers_cons hn (.list hitems) (spellsMembers_last hfield (.record hfields))) hend
    ⟨[_], List.Perm.swap _ _ _, by decide⟩ ⟨[_], (List.reverse_perm _).symm, by decide⟩
  convert hline using 1
  decide +kernel

end Example

/-- Two events among blank lines. -/
def mixedLog : List Event := [.reset 128, .memory "\u2028𝄞" 8 4096]

def mixedLines : List (List Char) := [[], resetLine, [' ', '\t'], accessLine, []]

theorem mixedLog_read_back :
    (∀ e ∈ mixedLog, Fits e) ∧ IsLog IsLineOf mixedLog mixedLines ∧
      Log.events (List.intercalate ['\n'] mixedLines) = .ok mixedLog := by
  have hfit : ∀ e ∈ mixedLog, Fits e := by decide
  have hline : ∀ line ∈ mixedLines, '\n' ∉ line := by decide +kernel
  have hlog : IsLog IsLineOf mixedLog mixedLines :=
    .blank rfl (.entry isLineOf_resetLine (.blank rfl (.entry isLineOf_accessLine
      (.blank rfl .nil))))
  exact ⟨hfit, hlog, events_read_back hfit hline hlog⟩

end Cosim.Proofs.EventLog.RoundTrip
