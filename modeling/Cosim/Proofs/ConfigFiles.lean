import Cosim.Proofs.Json.Abandoned
import Cosim.Proofs.MalformedLogs
import Cosim.Proofs.Run.Ending

namespace Cosim.Proofs.ConfigFiles

open Cosim.Cli Cosim.Files Cosim.Json Cosim.Run Cosim.Run.Session Cosim.Text
open Cosim.Proofs.Json.Abandoned Cosim.Proofs.MalformedLogs Cosim.Proofs.Outcome
  Cosim.Proofs.Run.Actions Cosim.Proofs.Run.Ending Cosim.Proofs.Session Cosim.Proofs.Text.Utf8

/-- What a text is read as: a configuration, or a complaint about it, unless it is given up. -/
inductive Reads (text : List Char) : Except Config.TextFault Config → Prop
  | config (c : Config) : Reads text (.ok c)
  | malformed (m : Relaxed.Malformed) : Reads text (.error (.malformed m))
  | invalid (f : Config.Fault) : Reads text (.error (.invalid f))
  | givenUp {a : Relaxed.Abandon} (h : IsGivenUp text a) : Reads text (.error (.abandoned a))

inductive IsComplaint : Fault → Prop
  | unreadable (path : String) (e : Errno) : IsComplaint (.unreadableConfig path e)
  | malformed (m : Relaxed.Malformed) : IsComplaint (.badConfig (.malformed m))
  | invalid (f : Config.Fault) : IsComplaint (.badConfig (.invalid f))

/-- The faults that say nothing of a configuration, with what there is at its path. -/
inductive Escapes (t : Tree) (path : String) : Fault → Prop
  | zeroCharacter (h : '\x00' ∈ path.toList) : Escapes t path .zeroCharacter
  | undecodable {octets : List UInt8} {e : Utf8.Invalid} (read : t.read path = .ok octets)
      (h : ∀ text, octets ≠ Utf8.encode text) : Escapes t path (.undecodable e)
  | givenUp {octets : List UInt8} {text : List Char} {a : Relaxed.Abandon}
      (read : t.read path = .ok octets) (decoded : Utf8.decode octets = .ok text)
      (h : IsGivenUp (Lines.unify text) a) : Escapes t path (.badConfig (.abandoned a))

inductive Settles (t : Tree) (path : String) : Except Fault Config → Prop
  | config (c : Config) : Settles t path (.ok c)
  | complaint {f : Fault} (h : IsComplaint f) : Settles t path (.error f)
  | escapes {f : Fault} (h : Escapes t path f) : Settles t path (.error f)

section Texts

variable {text : List Char}

theorem reads_ofText (text : List Char) : Reads text (Config.ofText text) := by
  unfold Config.ofText
  split
  next v _ =>
    cases Config.ofValue v with
    | ok c => exact .config c
    | error f => exact .invalid f
  next m _ => exact .malformed m
  next a h => exact .givenUp (isGivenUp_of_read h)

theorem collect_chars (offset : Nat) (s : List Char) :
    Utf8.collect offset (s.map .char) = .ok s := by
  induction s generalizing offset with
  | nil => rfl
  | cons c s ih => rw [List.map_cons, Utf8.collect, ih, Except.map]

theorem decode_encode (s : List Char) : Utf8.decode (Utf8.encode s) = .ok s := by
  rw [Utf8.decode, scan_encode, collect_chars]

end Texts

section Files

variable {t : Tree} {s : Session} {path : String} {settings : CampaignCommand.Settings}
  {machine : Machine} {f : Fault}

def configAt (t : Tree) (path : String) : Except Fault Config :=
  if path.toList.contains '\x00' then .error .zeroCharacter
  else do
    let octets ← (t.read path).mapError (.unreadableConfig path)
    let text ← (Utf8.decode octets).mapError .undecodable
    (Config.ofText (Lines.unify text)).mapError .badConfig

theorem run_settle {ε α : Type} (fault : ε → Fault) (x : Except ε α) (s : Session) :
    (settle fault x).run s = (x.mapError fault, s) := by
  cases x <;> rfl

theorem run_settle_bind {ε α β : Type} (fault : ε → Fault) (x : Except ε α) (k : α → Action β)
    (f : α → Except Fault β) (s : Session) (hk : ∀ a, (k a).run s = (f a, s)) :
    (settle fault x >>= k).run s = (x.mapError fault >>= f, s) := by
  cases x with
  | ok a => exact (run_bind_ok rfl k).trans (hk a)
  | error e => rfl

theorem run_readConfig_eq (path : String) (s : Session) :
    (readConfig path).run s = (configAt s.tree path, s) := by
  unfold readConfig configAt checkText
  split_ifs with h
  · rfl
  · rw [pure_bind, run_get_bind]
    refine run_settle_bind _ _ _ _ s fun octets => ?_
    exact run_settle_bind _ _ _ _ s fun text => run_settle _ _ s

theorem outcome_readConfig (path : String) (s : Session) :
    outcome (readConfig path) s = configAt s.tree path := by
  rw [outcome, run_readConfig_eq]

theorem settles_ofText {octets : List UInt8} {text : List Char} (hread : t.read path = .ok octets)
    (hdecode : Utf8.decode octets = .ok text) :
    Settles t path ((Config.ofText (Lines.unify text)).mapError .badConfig) := by
  have hreads := reads_ofText (Lines.unify text)
  generalize Config.ofText (Lines.unify text) = r at hreads
  cases hreads with
  | config c => exact .config c
  | malformed m => exact .complaint (.malformed m)
  | invalid f => exact .complaint (.invalid f)
  | givenUp h => exact .escapes (.givenUp hread hdecode h)

theorem settles_configAt (t : Tree) (path : String) : Settles t path (configAt t path) := by
  unfold configAt
  split_ifs with h
  · exact .escapes (.zeroCharacter (List.contains_iff_mem.mp h))
  · cases hread : t.read path with
    | error e => exact .complaint (.unreadable path e)
    | ok octets =>
      cases hdecode : Utf8.decode octets with
      | error e =>
        have hno : ∀ text, octets ≠ Utf8.encode text := by
          rintro text rfl
          rw [decode_encode] at hdecode
          cases hdecode
        simpa only [Except.mapError, bind, Except.bind, hdecode] using
          Settles.escapes (.undecodable hread hno)
      | ok text =>
        simpa only [Except.mapError, bind, Except.bind, hdecode] using settles_ofText hread hdecode

theorem run_carryOut_error (hpath : (planned settings s).configFile = .ok path)
    (h : configAt s.tree path = .error f) :
    (CampaignCommand.carryOut machine settings).run s = (.error f, begun settings s) := by
  have hread : (readConfig path).run (begun settings s) = (.error f, begun settings s) := by
    rw [run_readConfig_eq]
    exact Prod.ext h rfl
  rw [carryOut_eq]
  exact run_bind_error ((run_gathered hpath machine).trans (run_bind_error hread _)) _

theorem run_command_error {arguments : List String} {found : Options.Found}
    (hfound : Options.read CampaignCommand.form.options arguments = .ok found)
    (hpath : (planned (.ofFound found) s).configFile = .ok path)
    (h : configAt s.tree path = .error f) :
    (CampaignCommand.run machine arguments).run s = if f.isReported then
      (.ok 1, { begun (.ofFound found) s with
        errors := s.errors ++ ("Error: " ++ f.message ++ "\n") })
    else (.error f, begun (.ofFound found) s) := by
  rw [CampaignCommand.run, hfound]
  exact run_reporting _ (run_carryOut_error hpath h)

end Files

/-- Every text and every file is read as a configuration, or there is a complaint about it, unless
the reader breaks off. The command tells a complaint in one line and ends with status 1, and breaks
off where the reader does. -/
theorem complaints_told (text : List Char) (path : String) (machine : Machine)
    (arguments : List String) (s : Session) :
    Reads text (Config.ofText text) ∧
    Settles s.tree path (outcome (readConfig path) s) ∧
    ∀ {found f}, Options.read CampaignCommand.form.options arguments = .ok found →
      (planned (.ofFound found) s).configFile = .ok path →
      outcome (readConfig path) s = .error f →
      (IsComplaint f → (CampaignCommand.run machine arguments).run s =
        (.ok 1, { begun (.ofFound found) s with
          errors := s.errors ++ ("Error: " ++ f.message ++ "\n") })) ∧
      (Escapes s.tree path f →
        (CampaignCommand.run machine arguments).run s = (.error f, begun (.ofFound found) s)) := by
  rw [outcome_readConfig]
  refine ⟨reads_ofText text, settles_configAt s.tree path, ?_⟩
  intro found f hfound hpath hfault
  rw [run_command_error hfound hpath hfault]
  refine ⟨fun hcomplaint => if_pos ?_, fun hescapes => if_neg ?_⟩
  · cases hcomplaint <;> rfl
  · cases hescapes <;> exact Bool.false_ne_true

def configured (octets : List UInt8) : Session := sessionWith "sail_difftest_config.json" octets

theorem read_configured (octets : List UInt8) :
    (configured octets).tree.read "./sail_difftest_config.json" = .ok octets :=
  read_sessionWith octets (by with_unfolding_all rfl)

theorem configAt_configured (text : List Char) (h : '\r' ∉ text) :
    configAt (configured (Utf8.encode text)).tree "./sail_difftest_config.json" =
      (Config.ofText text).mapError .badConfig := by
  rw [configAt, if_neg (by decide), read_configured]
  simp only [Except.mapError, bind, Except.bind, decode_encode, Lines.unify_of_no_return h]

theorem read_no_options : Options.read CampaignCommand.form.options [] = .ok [] := by
  with_unfolding_all rfl

/-- The reader complains about a brace that is not closed. -/
theorem open_brace_told : ∃ s', (CampaignCommand.run talker []).run
    (configured (Utf8.encode ['\x7b'])) = (.ok 1, s') ∧ s'.errors =
      "Error: Could not decode hjson Bad key name (eof): line 1 column 2 (char 1)\n" := by
  have hmalformed : Config.ofText ['\x7b'] =
      .error (.malformed ⟨.noKey, .after ['\x7b'] 1, [], .after ['\x7b'] 1⟩) := by
    with_unfolding_all rfl
  obtain ⟨-, -, htold⟩ := complaints_told [] "./sail_difftest_config.json" talker []
    (configured (Utf8.encode ['\x7b']))
  have hfault := outcome_readConfig "./sail_difftest_config.json"
    (configured (Utf8.encode ['\x7b']))
  rw [configAt_configured _ (by decide), hmalformed] at hfault
  exact ⟨_, (htold read_no_options rfl hfault).1 (.malformed _), by decide +kernel⟩

def abandon? : Except Config.TextFault Config → Option Relaxed.Abandon
  | .error (.abandoned a) => some a
  | _ => none

theorem eq_of_abandon? {r : Except Config.TextFault Config} {a : Relaxed.Abandon}
    (h : abandon? r = some a) : r = .error (.abandoned a) := by
  unfold abandon? at h
  split at h
  · exact congrArg _ (congrArg _ (Option.some.inj h))
  · cases h

/-- A comment and a text between triple apostrophes that are not closed, a number with too many
digits and one that is too large, an escape for a negative number, a file that is no text, and a
path with U+0000: there is no complaint about any of them. -/
theorem bad_configs_untold :
    Config.ofText "\x7belf_path_glob: a\x7d\n/* no end".toList = .error (.abandoned .endOfText) ∧
    Config.ofText "\x7belf_path_glob: '''".toList = .error (.abandoned .endOfText) ∧
    Config.ofText ('[' :: nines 4301) = .error (.abandoned (.tooLong 4301)) ∧
    Config.ofText "[1e999]".toList = .error (.abandoned .infinite) ∧
    Config.ofText "[\"\\u-001\"]".toList = .error (.abandoned .noCharacter) ∧
    outcome (readConfig "a\x00b") (configured []) = .error .zeroCharacter ∧
    outcome (CampaignCommand.run talker []) (configured [0xFF]) =
      .error (.undecodable ⟨0, [0xFF], .badStart⟩) ∧
    outcome (CampaignCommand.run talker []) (configured (Utf8.encode "/* no end".toList)) =
      .error (.badConfig (.abandoned .endOfText)) := by
  have habandoned : Config.ofText "/* no end".toList = .error (.abandoned .endOfText) :=
    eq_of_abandon? (by decide +kernel)
  refine ⟨?_, ?_, ?_, ?_, ?_, rfl, ?_, ?_⟩
  · exact eq_of_abandon? (by decide +kernel)
  · exact eq_of_abandon? (by decide +kernel)
  · exact eq_of_abandon? (by decide +kernel)
  · exact eq_of_abandon? (by decide +kernel)
  · exact eq_of_abandon? (by decide +kernel)
  · have hfault : configAt (configured [0xFF]).tree "./sail_difftest_config.json" =
        .error (.undecodable ⟨0, [0xFF], .badStart⟩) := by
      rw [configAt, if_neg (by decide), read_configured]
      rfl
    rw [outcome, run_command_error read_no_options rfl hfault]
    rfl
  · have hfault := configAt_configured "/* no end".toList (by decide)
    rw [habandoned] at hfault
    rw [outcome, run_command_error read_no_options rfl hfault]
    rfl

end Cosim.Proofs.ConfigFiles
