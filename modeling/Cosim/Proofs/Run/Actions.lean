import Cosim.Proofs.Outcome
import Cosim.Proofs.Session

namespace Cosim.Proofs.Run.Actions

open Cosim.Files Cosim.Run Cosim.Run.Session Cosim.Proofs.Outcome Cosim.Proofs.Session

variable {α β ε : Type}

/-- An action that neither depends on the session nor changes it. -/
def Still (a : Action α) : Prop := ∃ r, ∀ s, a.run s = (r, s)

section Still

variable {a : Action α} {f : α → Action β} {r : Except Fault α} {s s' : Session}

theorem still_pure (x : α) : Still (pure x : Action α) := ⟨.ok x, fun _ => rfl⟩

theorem still_throw (e : Fault) : Still (throw e : Action α) := ⟨.error e, fun _ => rfl⟩

theorem still_settle (fault : ε → Fault) (x : Except ε α) : Still (settle fault x) := by
  cases x with
  | ok x => exact still_pure x
  | error e => exact still_throw (fault e)

theorem still_checkText (text : String) : Still (checkText text) := by
  rw [checkText]
  split
  · exact still_throw .zeroCharacter
  · exact still_pure ()

theorem Still.bind (ha : Still a) (hf : ∀ x, Still (f x)) : Still (a >>= f) := by
  obtain ⟨e | x, hr⟩ := ha
  · exact ⟨.error e, fun s => run_bind_error (hr s) f⟩
  · obtain ⟨r, hx⟩ := hf x
    exact ⟨r, fun s => (run_bind_ok (hr s) f).trans (hx s)⟩

theorem still_asText (text : Text.Wide) : Still (asText text) :=
  (still_settle _ _).bind fun t => (still_checkText t).bind fun _ => still_pure t

theorem still_forM {g : β → Action PUnit} (hg : ∀ x, Still (g x)) (xs : List β) :
    Still (xs.forM g) := by
  induction xs with
  | nil => exact still_pure _
  | cons x xs ih => exact (hg x).bind fun _ => ih

theorem still_mapM {g : β → Action α} (hg : ∀ x, Still (g x)) (xs : List β) :
    Still (xs.mapM g) := by
  induction xs with
  | nil => exact still_pure _
  | cons x xs ih =>
    rw [List.mapM_cons]
    exact (hg x).bind fun _ => ih.bind fun _ => still_pure _

theorem still_option_forM {g : β → Action PUnit} (hg : ∀ x, Still (g x)) (x : Option β) :
    Still (x.forM g) := by
  cases x with
  | none => exact still_pure _
  | some x => exact hg x

theorem Still.eq_of_run (ha : Still a) (h : a.run s = (r, s')) : s' = s := by
  obtain ⟨r', hr⟩ := ha
  rw [hr s] at h
  exact (Prod.mk.inj h).2.symm

/-- What follows an action that changes nothing starts from the same session. -/
theorem Still.of_bind {y : β} (ha : Still a) (h : (a >>= f).run s = (.ok y, s')) :
    ∃ x, (f x).run s = (.ok y, s') := by
  rw [run_bind_eq_ok] at h
  obtain ⟨x, s₁, hx, h⟩ := h
  obtain rfl := ha.eq_of_run hx
  exact ⟨x, h⟩

/-- An action that changes nothing ends with a fault, or leaves the session to what follows. -/
theorem Still.bind_cases (ha : Still a) (f : α → Action β) (s : Session) :
    (∃ e, (a >>= f).run s = (.error e, s)) ∨ ∃ x, (a >>= f).run s = (f x).run s := by
  obtain ⟨e | x, hr⟩ := ha
  · exact .inl ⟨e, run_bind_error (hr s) f⟩
  · exact .inr ⟨x, run_bind_ok (hr s) f⟩

theorem run_get_bind (f : Session → Action β) (s : Session) :
    (get >>= f).run s = (f s).run s := rfl

end Still

/-- An action that changes no files, whatever it gives. -/
def Quiet (a : Action α) : Prop := ∀ s, (a.run s).2.tree = s.tree

section Quiet

variable {a : Action α} {f : α → Action β} {path commitLog eventLog : String}

theorem Still.quiet (ha : Still a) : Quiet a := by
  obtain ⟨r, hr⟩ := ha
  exact fun s => by rw [hr s]

theorem Quiet.bind (ha : Quiet a) (hf : ∀ x, Quiet (f x)) : Quiet (a >>= f) := by
  intro s
  have htree := ha s
  rw [run_bind]
  rcases hrun : a.run s with ⟨e | x, s₁⟩
  · rwa [hrun] at htree
  · rw [hrun] at htree
    exact (hf x s₁).trans htree

theorem quiet_get : Quiet (get : Action Session) := fun _ => rfl

theorem quiet_forM {g : β → Action PUnit} (hg : ∀ x, Quiet (g x)) (xs : List β) :
    Quiet (xs.forM g) := by
  induction xs with
  | nil => exact (still_pure _).quiet
  | cons x xs ih => exact (hg x).bind fun _ => ih

theorem quiet_note (level : Level) (text : String) : Quiet (note level text) := by
  intro s
  obtain ⟨records, hrun⟩ := run_note level text s
  rw [hrun]

theorem quiet_readOctets (path : String) : Quiet (readOctets path) := by
  rw [readOctets]
  exact (still_checkText path).quiet.bind fun _ => quiet_get.bind fun _ =>
    (still_settle _ _).quiet

theorem quiet_readLog (parse : List UInt8 → Except Trace.Log.Fault (List α)) (before : String)
    (after : List α → String) (path : String) : Quiet (readLog parse before after path) := by
  rw [readLog]
  refine (quiet_note .info before).bind fun _ => (quiet_readOctets path).bind fun _ => ?_
  refine (still_settle _ _).quiet.bind fun xs => ?_
  exact (quiet_note .info (after xs)).bind fun _ => (still_pure _).quiet

theorem quiet_compareFiles (commitLog eventLog : String) (pattern : Option Trace.EndPattern) :
    Quiet (compareFiles commitLog eventLog pattern) := by
  rw [compareFiles, readCommits, readEvents, commitsFrom_eq, eventsFrom_eq]
  refine (quiet_readLog _ _ _ commitLog).bind fun commits =>
    (quiet_readLog _ _ _ eventLog).bind fun events => ?_
  rw [compareTraces]
  refine (still_settle _ _).quiet.bind fun comparison => ?_
  have hnotes : Quiet (comparison.notes.forM fun n => note .debug n.message) :=
    quiet_forM (fun n => quiet_note .debug n.message) comparison.notes
  exact hnotes.bind fun _ => (still_pure _).quiet

end Quiet

/-- From related sessions two actions give the same. With a result they leave related sessions. -/
def Related (P : Session → Session → Prop) (a a' : Action α)
    (Q : α → Session → Session → Prop) : Prop :=
  ∀ s s', P s s' → outcome a s = outcome a' s' ∧
    ∀ x, outcome a s = .ok x → Q x (a.run s).2 (a'.run s').2

section Related

variable {P P' : Session → Session → Prop} {a a' : Action α} {f f' : α → Action β}
  {Q Q' : α → Session → Session → Prop} {R : β → Session → Session → Prop}

theorem Related.mono (h : Related P a a' Q) (hP : ∀ s s', P' s s' → P s s')
    (hQ : ∀ x s s', Q x s s' → Q' x s s') : Related P' a a' Q' := by
  intro s s' hs
  obtain ⟨hsame, hafter⟩ := h s s' (hP s s' hs)
  exact ⟨hsame, fun x hx => hQ x _ _ (hafter x hx)⟩

theorem Related.bind (ha : Related P a a' Q) (hf : ∀ x, Related (Q x) (f x) (f' x) R) :
    Related P (a >>= f) (a' >>= f') R := by
  intro s s' hs
  obtain ⟨hsame, hafter⟩ := ha s s' hs
  rw [outcome, outcome] at hsame
  rw [outcome, outcome, run_bind, run_bind]
  rw [outcome] at hafter
  rcases hrun : a.run s with ⟨e | x, s₁⟩
  · rw [hrun] at hsame
    rcases hrun' : a'.run s' with ⟨r, s₁'⟩
    rw [hrun'] at hsame
    obtain rfl : .error e = r := hsame
    refine ⟨rfl, fun x hx => ?_⟩
    cases hx
  · rw [hrun] at hsame hafter
    rcases hrun' : a'.run s' with ⟨r, s₁'⟩
    rw [hrun'] at hsame hafter
    obtain rfl : .ok x = r := hsame
    exact hf x s₁ s₁' (hafter x rfl)

theorem related_pure {x : α} (h : ∀ s s', P s s' → Q x s s') : Related P (pure x) (pure x) Q := by
  intro s s' hs
  refine ⟨rfl, ?_⟩
  rintro y ⟨⟩
  exact h s s' hs

theorem related_throw {e : Fault} : Related P (throw e) (throw e) Q :=
  fun _ _ _ => ⟨rfl, nofun⟩

theorem related_throw_bind {e : Fault} :
    Related P ((throw e : Action α) >>= f) ((throw e : Action α) >>= f') R :=
  (related_throw (Q := fun _ _ _ => False)).bind fun _ _ _ h => h.elim

theorem related_of_fact {p : Prop} (h : p → Related P a a' Q) :
    Related (fun s s' => p ∧ P s s') a a' Q :=
  fun s s' hs => h hs.1 s s' hs.2

theorem related_get {f f' : Session → Action β}
    (hf : ∀ t t', P t t' → Related (fun s s' => s = t ∧ s' = t') (f t) (f' t') R) :
    Related P (get >>= f) (get >>= f') R :=
  fun s s' hs => hf s s' hs s s' ⟨rfl, rfl⟩

theorem related_modify {g g' : Session → Session} {Q : PUnit → Session → Session → Prop}
    (h : ∀ s s', P s s' → Q () (g s) (g' s')) : Related P (modify g) (modify g') Q :=
  fun s s' hs => ⟨rfl, fun _ _ => h s s' hs⟩

theorem Still.related (ha : Still a) : Related P a a fun _ => P := by
  obtain ⟨r, hr⟩ := ha
  intro s s' hs
  rw [outcome, outcome, hr s, hr s']
  exact ⟨rfl, fun _ _ => hs⟩

theorem Still.related_of {G : α → Prop} (ha : Still a)
    (h : ∀ {s x s'}, a.run s = (.ok x, s') → G x) :
    Related P a a fun x s s' => G x ∧ P s s' := by
  obtain ⟨r, hr⟩ := ha
  intro s s' hs
  rw [outcome, outcome, hr s, hr s']
  refine ⟨rfl, ?_⟩
  rintro x rfl
  exact ⟨h (hr s), hs⟩

theorem related_settle {ε : Type} {fault : ε → Fault} {x : Except ε α} :
    Related P (settle fault x) (settle fault x) fun a s s' => x = .ok a ∧ P s s' := by
  cases x with
  | ok a => exact related_pure fun s s' hs => ⟨rfl, hs⟩
  | error e => exact related_throw

theorem related_forM {g : β → Action PUnit} {xs : List β}
    (h : ∀ x, Related P (g x) (g x) fun _ => P) : Related P (xs.forM g) (xs.forM g) fun _ => P := by
  induction xs with
  | nil => exact related_pure fun _ _ hs => hs
  | cons x xs ih => exact (h x).bind fun _ => ih

end Related

/-- A relation between sessions that does not depend on what they have told. -/
def Deaf (P : Session → Session → Prop) : Prop :=
  ∀ s s' t t', P s s' → t.tree = s.tree → t.environment = s.environment →
    t'.tree = s'.tree → t'.environment = s'.environment → P t t'

section Telling

variable {P : Session → Session → Prop}

theorem Deaf.tell (hP : Deaf P) {f : Session → Session}
    (hf : ∀ s, (f s).tree = s.tree ∧ (f s).environment = s.environment) :
    Related P (modify f) (modify f) fun _ => P :=
  related_modify fun s s' h => hP s s' _ _ h (hf s).1 (hf s).2 (hf s').1 (hf s').2

theorem Deaf.note (hP : Deaf P) (level : Level) (text : String) :
    Related P (Session.note level text) (Session.note level text) fun _ => P := by
  refine hP.tell fun s => ?_
  split
  · exact ⟨rfl, rfl⟩
  · exact ⟨rfl, rfl⟩

end Telling

section Reading

variable {P : Session → Session → Prop} {path commitLog eventLog : String}
  {parse : List UInt8 → Except Trace.Log.Fault (List α)} {before : String}
  {after : List α → String}

theorem related_readOctets (h : ∀ s s', P s s' → s.tree.read path = s'.tree.read path) :
    Related P (readOctets path) (readOctets path) fun _ => P := by
  rw [readOctets]
  refine (still_checkText _).related.bind fun _ => related_get fun t t' ht => ?_
  rw [h t t' ht]
  refine (still_settle _ _).related.mono (fun _ _ hs => hs) ?_
  rintro _ s s' ⟨rfl, rfl⟩
  exact ht

theorem related_readLog (hP : Deaf P) (h : ∀ s s', P s s' → s.tree.read path = s'.tree.read path) :
    Related P (readLog parse before after path) (readLog parse before after path) fun _ => P := by
  rw [readLog]
  refine (hP.note .info before).bind fun _ => (related_readOctets h).bind fun octets => ?_
  refine (still_settle _ _).related.bind fun xs => ?_
  exact (hP.note .info (after xs)).bind fun _ => related_pure fun _ _ hs => hs

/-- Sessions in which two logs hold the same, whatever is told, compare them alike. -/
theorem related_compareFiles (hP : Deaf P)
    (hcommits : ∀ s s', P s s' → s.tree.read commitLog = s'.tree.read commitLog)
    (hevents : ∀ s s', P s s' → s.tree.read eventLog = s'.tree.read eventLog)
    (pattern : Option Trace.EndPattern) :
    Related P (compareFiles commitLog eventLog pattern) (compareFiles commitLog eventLog pattern)
      fun _ => P := by
  rw [compareFiles, readCommits, readEvents, commitsFrom_eq, eventsFrom_eq]
  refine (related_readLog hP hcommits).bind fun commits => ?_
  refine (related_readLog hP hevents).bind fun events => ?_
  rw [compareTraces]
  refine (still_settle _ _).related.bind fun comparison => ?_
  exact (related_forM fun n => hP.note .debug n.message).bind fun _ => related_pure fun _ _ h => h

end Reading

section Readable

variable {s s' : Session} {path commitLog eventLog : String} {octets : List UInt8}
  {pattern : Option Trace.EndPattern} {verdict : Report.Verdict Text.Wide}

theorem settle_eq_ok {fault : ε → Fault} {x : Except ε α} {a : α}
    (h : (settle fault x).run s = (.ok a, s')) : x = .ok a ∧ s' = s := by
  cases x with
  | ok b =>
    obtain ⟨⟨⟩, hs⟩ := Prod.mk.inj h
    exact ⟨rfl, hs.symm⟩
  | error e => cases (Prod.mk.inj h).1

/-- The system takes the texts that are spelled in characters. -/
theorem eq_of_asText {word : Text.Wide} {text : String}
    (h : (asText word).run s = (.ok text, s')) : word = text := by
  rw [asText, run_bind_eq_ok] at h
  obtain ⟨t, s₁, hspelled, h⟩ := h
  obtain ⟨⟨⟩, h⟩ := (still_checkText t).of_bind h
  obtain ⟨⟨⟩, -⟩ := Prod.mk.inj h
  exact Text.Wide.spelled_eq_ok.mp (settle_eq_ok hspelled).1

theorem eq_of_mapM_asText {words : List Text.Wide} {texts : List String}
    (h : (words.mapM asText).run s = (.ok texts, s')) : words = texts.map Text.Wide.ofString := by
  induction words generalizing s texts with
  | nil =>
    obtain ⟨⟨⟩, -⟩ := Prod.mk.inj h
    rfl
  | cons word words ih =>
    rw [List.mapM_cons, run_bind_eq_ok] at h
    obtain ⟨text, s₁, hword, h⟩ := h
    rw [run_bind_eq_ok] at h
    obtain ⟨texts, s₂, hwords, ⟨⟩⟩ := h
    rw [eq_of_asText hword, ih hwords]
    rfl

theorem tree_of_note {level : Level} {text : String}
    (h : (note level text).run s = (.ok (), s')) : s'.tree = s.tree := by
  obtain ⟨records, hrun⟩ := run_note level text s
  rw [← (Prod.mk.inj (hrun.symm.trans h)).2]

section Writing

variable {text : String} {tree : Tree}

theorem run_writeText (hp : '\x00' ∉ path.toList)
    (h : s.tree.write path (Text.Utf8.encode text.toList) = .ok tree) :
    (writeText path text).run s = (.ok (), { s with tree := tree }) := by
  have hc : checkText path = pure () := if_neg (by simpa using hp)
  rw [writeText, hc, pure_bind, run_get_bind, h]
  rfl

theorem tree_of_writeText (h : (writeText path text).run s = (.ok (), s')) :
    ∃ tree, s.tree.write path (Text.Utf8.encode text.toList) = .ok tree ∧
      s' = { s with tree := tree } := by
  rw [writeText] at h
  obtain ⟨⟨⟩, hrun⟩ := (still_checkText path).of_bind h
  rw [run_get_bind, run_bind_eq_ok] at hrun
  obtain ⟨tree, s₁, htree, hrun⟩ := hrun
  obtain ⟨htree, rfl⟩ := settle_eq_ok htree
  exact ⟨tree, htree, (Prod.mk.inj hrun).2.symm⟩

theorem session_of_writeText_error {e : Fault} (h : (writeText path text).run s = (.error e, s')) :
    s' = s := by
  rw [writeText] at h
  rcases (still_checkText path).bind_cases _ s with ⟨f, hf⟩ | ⟨_, hrest⟩
  · exact (Prod.mk.inj (h.symm.trans hf)).2
  · rw [hrest, run_get_bind] at h
    rcases (still_settle _ _).bind_cases _ s with ⟨f, hf⟩ | ⟨tree, hmodify⟩
    · exact (Prod.mk.inj (h.symm.trans hf)).2
    · cases (Prod.mk.inj (h.symm.trans hmodify)).1

theorem writeVerdict_ok {verdict : Report.Verdict Text.Wide} {told : Report.Verdict String}
    {facts : List (String × String)}
    (h : (writeVerdict path verdict facts).run s = (.ok told, s')) :
    verdict = told.map Text.Wide.ofString ∧
      (writeText path (Report.resultText told facts)).run s = (.ok (), s') := by
  unfold writeVerdict at h
  split at h
  · next told' hspelled =>
    rw [run_bind_eq_ok] at h
    obtain ⟨⟨⟩, s₁, hwrite, ⟨⟩⟩ := h
    exact ⟨Report.Verdict.spelled_eq_ok.mp hspelled, hwrite⟩
  · rw [run_bind_eq_ok] at h
    obtain ⟨_, _, -, ⟨⟩⟩ := h

/-- A verdict is not written because its file cannot be, or it holds half of a pair, and the file is
cut off. -/
theorem writeVerdict_error {verdict : Report.Verdict Text.Wide} {facts : List (String × String)}
    {e : Fault} (h : (writeVerdict path verdict facts).run s = (.error e, s')) :
    s' = s ∨ ∃ d half, verdict = .fail d ∧ d.spelled = .error half ∧ e = .unencodable half ∧
      (writeText path Report.failOpening).run s = (.ok (), s') := by
  unfold writeVerdict at h
  split at h
  · rw [run_bind_eq_error] at h
    rcases h with hwrite | ⟨_, s₁, -, ⟨⟩⟩
    exact .inl (session_of_writeText_error hwrite)
  · next half hspelled =>
    rw [run_bind_eq_error] at h
    rcases h with hwrite | ⟨⟨⟩, s₁, hwrite, ⟨⟩⟩
    · exact .inl (session_of_writeText_error hwrite)
    · cases verdict with
      | pass => cases hspelled
      | fail d =>
        exact .inr ⟨d, half, rfl, map_eq_error.mp hspelled, rfl, hwrite⟩

end Writing

/-- The directories that were made stay, even if not all could be made. -/
theorem tree_of_makeDirectories {dir : Path} {r : Except Fault Unit}
    (h : (Session.makeDirectories dir).run s = (r, s')) :
    s'.tree = s.tree ∨ s'.tree = (s.tree.makeDirectories dir).1 := by
  rw [Session.makeDirectories, run_bind] at h
  obtain ⟨e | x, hr⟩ := still_checkText dir.text
  · rw [hr] at h
    exact .inl (congrArg Session.tree (Prod.mk.inj h).2.symm)
  · rw [hr] at h
    dsimp only at h
    have hmade : (modify fun s' : Session =>
        { s' with tree := (s.tree.makeDirectories dir).1 } : Action PUnit).run s =
          (.ok (), { s with tree := (s.tree.makeDirectories dir).1 }) := rfl
    rw [run_get_bind, run_bind_ok hmade] at h
    have htold := (still_option_forM (fun _ => still_throw _) _).eq_of_run h
    exact .inr (congrArg Session.tree htold)

theorem readOctets_ok (h : (readOctets path).run s = (.ok octets, s')) :
    s.tree.read path = .ok octets ∧ s' = s := by
  obtain ⟨⟨⟩, h⟩ := (still_checkText path).of_bind h
  rw [run_get_bind] at h
  exact settle_eq_ok h

theorem readLog_ok {parse : List UInt8 → Except Trace.Log.Fault (List α)} {before : String}
    {after : List α → String} {xs : List α}
    (h : (readLog parse before after path).run s = (.ok xs, s')) :
    (∃ octets, s.tree.read path = .ok octets) ∧ s'.tree = s.tree := by
  rw [readLog, run_bind_eq_ok] at h
  obtain ⟨⟨⟩, s₁, hbefore, h⟩ := h
  rw [run_bind_eq_ok] at h
  obtain ⟨octets, s₂, hread, h⟩ := h
  obtain ⟨hoctets, rfl⟩ := readOctets_ok hread
  rw [run_bind_eq_ok] at h
  obtain ⟨ys, s₃, hparse, h⟩ := h
  obtain ⟨-, rfl⟩ := settle_eq_ok hparse
  rw [run_bind_eq_ok] at h
  obtain ⟨⟨⟩, s₄, hafter, ⟨⟩⟩ := h
  rw [tree_of_note hafter, tree_of_note hbefore]
  exact ⟨⟨octets, tree_of_note hbefore ▸ hoctets⟩, rfl⟩

theorem reads_of_compareFiles
    (h : (compareFiles commitLog eventLog pattern).run s = (.ok verdict, s')) :
    (∃ octets, s.tree.read commitLog = .ok octets) ∧
      ∃ octets, s.tree.read eventLog = .ok octets := by
  rw [compareFiles, readCommits, readEvents, commitsFrom_eq, eventsFrom_eq, run_bind_eq_ok] at h
  obtain ⟨commits, s₁, hcommits, h⟩ := h
  rw [run_bind_eq_ok] at h
  obtain ⟨events, s₂, hevents, -⟩ := h
  obtain ⟨hcommitLog, htree⟩ := readLog_ok hcommits
  obtain ⟨heventLog, -⟩ := readLog_ok hevents
  exact ⟨hcommitLog, htree ▸ heventLog⟩

/-- Comparing two logs depends on what they hold, and changes no files. -/
theorem compareFiles_of_read (hcommits : s.tree.read commitLog = s'.tree.read commitLog)
    (hevents : s.tree.read eventLog = s'.tree.read eventLog) :
    outcome (compareFiles commitLog eventLog pattern) s =
        outcome (compareFiles commitLog eventLog pattern) s' ∧
      ∀ verdict, outcome (compareFiles commitLog eventLog pattern) s = .ok verdict →
        ((compareFiles commitLog eventLog pattern).run s).2.tree = s.tree := by
  have hrelated : Related (fun u u' => u.tree = s.tree ∧ u'.tree = s'.tree)
      (compareFiles commitLog eventLog pattern) (compareFiles commitLog eventLog pattern)
      fun _ u u' => u.tree = s.tree ∧ u'.tree = s'.tree := by
    refine related_compareFiles ?_ ?_ ?_ pattern
    · rintro u u' t t' ⟨hu, hu'⟩ ht - ht' -
      exact ⟨ht.trans hu, ht'.trans hu'⟩
    · rintro u u' ⟨hu, hu'⟩
      rw [hu, hu', hcommits]
    · rintro u u' ⟨hu, hu'⟩
      rw [hu, hu', hevents]
  obtain ⟨hsame, hafter⟩ := hrelated s s' ⟨rfl, rfl⟩
  exact ⟨hsame, fun verdict hverdict => (hafter verdict hverdict).1⟩

theorem tree_of_compareFiles
    (h : (compareFiles commitLog eventLog pattern).run s = (.ok verdict, s')) :
    s'.tree = s.tree := by
  have hafter := (compareFiles_of_read (s := s) rfl rfl).2 verdict (congrArg Prod.fst h)
  rwa [h] at hafter

end Readable

end Cosim.Proofs.Run.Actions
