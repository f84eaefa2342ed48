import Cosim.Json.Relaxed
import Cosim.Proofs.Json.Reading
import Mathlib.Data.List.Infix

namespace Cosim.Proofs.Json.Abandoned

open Cosim.Json Cosim.Json.Relaxed Cosim.Numeral Cosim.Proofs.Json.Reading
  Cosim.Proofs.Json.Reading.Course

/-- What is due at a place of a text. -/
inductive Due where
  | key
  | colon
  | value
  | after
deriving DecidableEq

def Due.behind : Due → Due
  | .key => .colon
  | _ => .after

abbrev IsFour (ds : List Char) : Prop := ds.length = 4

def IsQuote (c : Char) : Prop := c = '"' ∨ c = '\''

def IsUpTo (close body : List Char) : Prop := ¬ close <:+: body ++ close.dropLast

def apostrophes : List Char := ['\'', '\'', '\'']

def InLine (body : List Char) : Prop := ∀ c ∈ body, c ≠ '\n' ∧ c ≠ '\r'

def IsOpenText (body s : List Char) : Prop :=
  ∀ front back, body = front ++ back → back ≠ [] → endsLiteral (back ++ s) = true →
    literal? front = none

/-- From a place of a text to another one, with what is due at each of them. -/
inductive Passes : Due → List Char → Due → List Char → Prop
  | here (d : Due) (s : List Char) : Passes d s d s
  | blank {d e : Due} {c : Char} {s rest : List Char} (hc : Reader.isSpace c = true)
      (h : Passes d s e rest) : Passes d (c :: s) e rest
  | lineComment {d e : Due} {mark body s rest : List Char} (hmark : mark ∈ [['#'], ['/', '/']])
      (hbody : InLine body) (hs : endsLine s = true) (h : Passes d s e rest) :
      Passes d (mark ++ (body ++ s)) e rest
  | comment {d e : Due} {body s rest : List Char} (hbody : IsUpTo ['*', '/'] body)
      (h : Passes d s e rest) : Passes d ('/' :: '*' :: (body ++ '*' :: '/' :: s)) e rest
  | string {d e : Due} {quote : Char} {body s rest : List Char} (hd : d = .key ∨ d = .value)
      (hquote : IsQuote quote) (hbody : IsQuoted quote IsFour body) (h : Passes d.behind s e rest) :
      Passes d (quote :: (body ++ quote :: s)) e rest
  | apostrophes {e : Due} {body s rest : List Char} (hbody : IsUpTo apostrophes body)
      (h : Passes .after s e rest) :
      Passes .value (apostrophes ++ (body ++ (apostrophes ++ s))) e rest
  | key {e : Due} {body s rest : List Char} (hbody : ∀ c ∈ body, c ≠ ':' ∧ isBracket c = false)
      (hstart : ∀ c ∈ body.head?, ¬ IsQuote c) (h : Passes .colon (':' :: s) e rest) :
      Passes .key (body ++ ':' :: s) e rest
  | colon {e : Due} {s rest : List Char} (h : Passes .value s e rest) :
      Passes .colon (':' :: s) e rest
  | literal {e : Due} {body s rest : List Char} (hopen : IsOpenText body s)
      (hs : endsLiteral s = true) (hbody : (literal? body).isSome = true)
      (h : Passes .after s e rest) : Passes .value (body ++ s) e rest
  | line {e : Due} {body s rest : List Char} (hopen : IsOpenText body s) (hbody : InLine body)
      (hs : endsLine s = true) (h : Passes .after s e rest) : Passes .value (body ++ s) e rest
  | openBrace {e : Due} {s rest : List Char} (h : Passes .key s e rest) :
      Passes .value ('\x7b' :: s) e rest
  | closeBrace {e : Due} {s rest : List Char} (h : Passes .after s e rest) :
      Passes .key ('\x7d' :: s) e rest
  | openBracket {e : Due} {s rest : List Char} (h : Passes .value s e rest) :
      Passes .value ('[' :: s) e rest
  | closeBracket {e : Due} {s rest : List Char} (h : Passes .after s e rest) :
      Passes .value (']' :: s) e rest
  | comma {d e : Due} {s rest : List Char} (hd : d = .key ∨ d = .value) (h : Passes d s e rest) :
      Passes .after (',' :: s) e rest
  | next {d e : Due} {s rest : List Char} (hd : d = .key ∨ d = .value) (h : Passes d s e rest) :
      Passes .after s e rest
  | ends {e : Due} {rest : List Char} (h : Passes .after [] e rest) : Passes .key [] e rest

def IsAlone (body : List Char) (t : NumberText) : Prop :=
  ∃ blanks, NumberText.scan? isAnyDigit body = some (t, blanks) ∧
    ∀ c ∈ blanks, c = ' ' ∨ c = '\t'

/-- What stands at a place where the reader gives up. -/
inductive Breaks (text : List Char) : Due → List Char → Abandon → Prop
  | comment {d : Due} {after : List Char} (unclosed : ¬ ['*', '/'] <:+: after) :
      Breaks text d ('/' :: '*' :: after) .endOfText
  | apostrophes {after : List Char} (h : '\n' ∉ text ∨ ∀ c ∈ after, isIndent c = true) :
      Breaks text .value (apostrophes ++ after) .endOfText
  | integer {body s : List Char} {t : NumberText} (hs : endsLiteral s = true)
      (number : IsAlone body t) (whole : t.isInteger = true)
      (long : Integer.digitLimit < t.whole.length) :
      Breaks text .value (body ++ s) (.tooLong t.whole.length)
  | real {body s : List Char} {t : NumberText} {negative : Bool} (hs : endsLiteral s = true)
      (number : IsAlone body t) (broken : t.isInteger = false)
      (large : t.toReal = .infinite negative) : Breaks text .value (body ++ s) .infinite
  | escape {e : Due} {quote a b c d : Char} {body after : List Char} {n : Int}
      (hd : e = .key ∨ e = .value) (hquote : IsQuote quote) (hbody : IsQuoted quote IsFour body)
      (number : Integer.readHex [a, b, c, d] = .ok n) (negative : n < 0) :
      Breaks text e (quote :: (body ++ '\\' :: 'u' :: a :: b :: c :: d :: after)) .noCharacter

def GivesUp (text : List Char) (d : Due) (s : List Char) (a : Abandon) : Prop :=
  ∃ e rest, Passes d s e rest ∧ Breaks text e rest a

section Places

variable {text s t rest : List Char} {d e f : Due} {a : Abandon}

theorem Passes.trans (h : Passes d s e t) (ht : Passes e t f rest) : Passes d s f rest := by
  induction h with
  | here => exact ht
  | blank hc _ ih => exact .blank hc (ih ht)
  | lineComment hmark hbody hs _ ih => exact .lineComment hmark hbody hs (ih ht)
  | comment hbody _ ih => exact .comment hbody (ih ht)
  | string hd hquote hbody _ ih => exact .string hd hquote hbody (ih ht)
  | apostrophes hbody _ ih => exact .apostrophes hbody (ih ht)
  | key hbody hstart _ ih => exact .key hbody hstart (ih ht)
  | colon _ ih => exact .colon (ih ht)
  | literal hopen hs hbody _ ih => exact .literal hopen hs hbody (ih ht)
  | line hopen hbody hs _ ih => exact .line hopen hbody hs (ih ht)
  | openBrace _ ih => exact .openBrace (ih ht)
  | closeBrace _ ih => exact .closeBrace (ih ht)
  | openBracket _ ih => exact .openBracket (ih ht)
  | closeBracket _ ih => exact .closeBracket (ih ht)
  | comma hd _ ih => exact .comma hd (ih ht)
  | next hd _ ih => exact .next hd (ih ht)
  | ends _ ih => exact .ends (ih ht)

theorem GivesUp.of_passes (h : Passes d s e t) (hg : GivesUp text e t a) : GivesUp text d s a := by
  obtain ⟨f, rest, hp, hb⟩ := hg
  exact ⟨f, rest, h.trans hp, hb⟩

theorem Breaks.givesUp (h : Breaks text d s a) : GivesUp text d s a := ⟨d, s, .here d s, h⟩

end Places

def course (text : List Char) : Course Due Stop where
  Leads := Passes
  Stops d s stop := ∀ a, stop = .abandon a → GivesUp text d s a
  trans := Passes.trans
  back h hs a ha := (hs a ha).of_passes h

abbrev Keeps {α : Type} (text : List Char) (d : Due) (s : List Char) (e : Due)
    (left : α → List Char) (step : Except Stop α) : Prop :=
  (course text).Keeps d s e left step

theorem keeps_fail {α : Type} {text s : List Char} {d e : Due} {left : α → List Char} (p : Problem)
    (rest : List Char) : Keeps text d s e left (fail p rest : Except Stop α) :=
  keeps_error nofun

theorem Breaks.keeps {α : Type} {text s : List Char} {d e : Due} {left : α → List Char}
    {a : Abandon} (h : Breaks text d s a) :
    Keeps text d s e left (.error (.abandon a) : Except Stop α) := by
  refine keeps_error ?_
  rintro _ ⟨⟩
  exact h.givesUp

section Gaps

variable {text s : List Char} {d : Due}

theorem isUpTo_nil {close : List Char} (h : close ≠ []) : IsUpTo close [] := by
  intro hinfix
  have hlength := hinfix.length_le
  rw [List.nil_append, List.length_dropLast] at hlength
  have hpos := List.length_pos_iff.mpr h
  omega

/-- Where the reader is inside of white space and comments: what is left of the comment that it is
in is passed over, unless it is one that is not closed. -/
def Skips (text : List Char) (d : Due) (s : List Char) (r : Except Stop (List Char)) :
    Between → Prop
  | .values => Keeps text d s d id r
  | .lineComment =>
    ∃ body t, s = body ++ t ∧ InLine body ∧ endsLine t = true ∧ Keeps text d t d id r
  | .blockComment =>
    (¬ ['*', '/'] <:+: s ∧ r = .error (.abandon .endOfText)) ∨
      ∃ body t, s = body ++ '*' :: '/' :: t ∧ IsUpTo ['*', '/'] body ∧ Keeps text d t d id r

theorem skips_skipFrom (text : List Char) (d : Due) (mode : Between) (s : List Char) :
    Skips text d s (skipFrom mode s) mode := by
  fun_induction skipFrom mode s with
  | case1 => exact .inl ⟨by simp, rfl⟩
  | case2 rest ih => exact .inr ⟨[], rest, rfl, isUpTo_nil (by simp), ih⟩
  -- inside a block comment: its end is not at this character
  | case3 c rest hne ih =>
    have hstart : ∀ tail, c :: rest ≠ '*' :: '/' :: tail := by
      intro tail he
      obtain ⟨rfl, rfl⟩ := List.cons.inj he
      exact hne tail rfl rfl
    rcases ih with ⟨hopen, hr⟩ | ⟨body, t, rfl, hbody, hk⟩
    · refine .inl ⟨fun hinfix => ?_, hr⟩
      rcases List.infix_cons_iff.mp hinfix with ⟨tail, htail⟩ | hrest
      · exact hstart tail htail.symm
      · exact hopen hrest
    · refine .inr ⟨c :: body, t, rfl, fun hinfix => ?_, hk⟩
      rcases List.infix_cons_iff.mp hinfix with ⟨tail, htail⟩ | hrest
      · refine hstart (tail ++ '/' :: t) ?_
        have happend := congrArg (· ++ '/' :: t) htail
        simpa using happend.symm
      · exact hbody hrest
  | case4 mode hmode =>
    cases mode with
    | values => exact keeps_ok (.here d [])
    | lineComment => exact ⟨[], [], rfl, nofun, rfl, keeps_ok (.here d [])⟩
    | blockComment => exact absurd rfl hmode
  | case5 c rest hc ih =>
    have hspace : Reader.isSpace c = true := by rcases hc with rfl | rfl <;> rfl
    have hend : endsLine (c :: rest) = true := by simpa [endsLine] using hc
    exact ⟨[], c :: rest, rfl, nofun, hend, .of_leads (.blank hspace (.here d rest)) ih⟩
  | case6 c rest hc ih =>
    obtain ⟨body, t, rfl, hbody, ht, hk⟩ := ih
    exact ⟨c :: body, t, rfl, List.forall_mem_cons.mpr ⟨not_or.mp hc, hbody⟩, ht, hk⟩
  | case7 rest ih =>
    obtain ⟨body, t, rfl, hbody, ht, hk⟩ := ih
    have hmark : ['/', '/'] ∈ [['#'], ['/', '/']] := by decide
    exact .of_leads (.lineComment hmark hbody ht (.here d t)) hk
  -- a block comment that is never closed gives the text up
  | case8 rest ih =>
    rcases ih with ⟨hopen, hr⟩ | ⟨body, t, rfl, hbody, hk⟩
    · rw [hr]
      exact (Breaks.comment hopen).keeps
    · exact .of_leads (.comment hbody (.here d t)) hk
  | case9 c rest _ _ hc ih => exact .of_leads (.blank hc (.here d rest)) ih
  | case10 rest _ _ _ ih =>
    obtain ⟨body, t, rfl, hbody, ht, hk⟩ := ih
    have hmark : ['#'] ∈ [['#'], ['/', '/']] := by decide
    exact .of_leads (.lineComment hmark hbody ht (.here d t)) hk
  | case11 => exact keeps_ok (.here d _)

theorem keeps_skip (text : List Char) (d : Due) (s : List Char) :
    Keeps text d s d id (skip s) :=
  skips_skipFrom text d .values s

end Gaps

end Cosim.Proofs.Json.Abandoned
