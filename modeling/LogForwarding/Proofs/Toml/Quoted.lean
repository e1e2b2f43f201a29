import LogForwarding.Toml.Quoted
import LogForwarding.Toml.Writer
import Mathlib.Data.Char
import Mathlib.Data.List.Basic
import Mathlib.Data.List.TakeWhile
import Mathlib.Order.MinMax
import Mathlib.Tactic.SplitIfs

/-!
# Quoted texts are read back

The writer of TOML has four kinds of quotes to choose from. Whichever it takes, the reader
comes to the end of the text where the writer put it, and has read what was written.

Where a text has escapes, the writer goes character by character, and so does the reader: what
is written of one character is a `Piece`. Quotes are the exception. Between three quotes up to
two of them may stand as they are, and the reader takes a run of them at once; so the
invariant of a text of several lines tells how many quotes have been written and not yet read.

## What is proved

* `exists_piece`: what the writer makes of a character is read as that character.
* `basic?_escaped`, `literal?_append`, `lines?_escaped`, `lines?_append`: the four kinds of
  quotes.
* `quoted?_quote`: a quoted text is read back, whatever follows it.
-/

namespace LogForwarding.Toml

variable {c : Char} {text rest seen : List Char} {fuel : Nat}

/-! ### Characters -/

theorem isPrintable_of_not_isControl (h : isControl c = false) (hbreak : c ≠ '\n') :
    isPrintable c := by
  simp only [isControl, Bool.or_eq_false_iff, Bool.and_eq_false_iff, decide_eq_false_iff_not,
    bne_eq_false_iff_eq] at h
  obtain ⟨(hspace | htab) | hline, hdelete⟩ := h
  · simp only [isPrintable, Bool.or_eq_true, Bool.and_eq_true, decide_eq_true_eq, bne_iff_ne]
    exact Or.inr ⟨not_lt.1 hspace, hdelete⟩
  · rw [htab]
    rfl
  · exact absurd hline hbreak

/-- A character that may stand as it is does not break a line. -/
theorem ne_break_of_isPrintable (h : isPrintable c) : c ≠ '\n' ∧ c ≠ '\r' := by
  constructor <;> rintro rfl <;> exact absurd h (by decide)

theorem afterBreak?_eq_none (h : text.head? ≠ some '\n' ∧ text.head? ≠ some '\r') :
    afterBreak? text = none := by
  unfold afterBreak?
  split
  · exact absurd rfl h.1
  · exact absurd rfl h.2
  · rfl

/-- What is written of a character between double quotes, to be read as that character. -/
inductive Piece (c : Char) : List Char → Prop where
  /-- The character stands for itself. -/
  | plain (hquote : c ≠ '"') (hescape : c ≠ '\\') (h : isPrintable c) : Piece c [c]
  /-- An escape stands for the character. -/
  | escape {tail : List Char} (h : ∀ rest, escape? (tail ++ rest) = some (c, rest)) :
      Piece c ('\\' :: tail)

theorem piece_of_shortEscape? {escape : List Char} (h : shortEscape? c = some escape) :
    Piece c escape := by
  unfold shortEscape? at h
  split at h <;> cases h <;> exact .escape fun _ => rfl

/-- The digits of a control character. -/
theorem digits_of_lt : ∀ n < 128,
    let digits := (Nat.toDigits 16 n).map Char.toUpper
    let padded := List.replicate (4 - digits.length) '0' ++ digits
    padded.length = 4 ∧ Number.natural? 16 padded = some n := by
  decide

theorem codePoint?_append {digits : List Char} {count : Nat} (hlength : digits.length = count)
    (hvalue : Number.natural? 16 digits = some c.toNat) :
    codePoint? count (digits ++ rest) = some (c, rest) := by
  have hvalid : c.toNat.isValidChar := c.valid
  rw [codePoint?, List.take_left' hlength, List.drop_left' hlength, hvalue, hlength]
  simp only [Option.bind_eq_bind, Option.bind_some, decide_true, Bool.true_and,
    decide_eq_true hvalid, if_true, Char.ofNat_toNat]
  rfl

theorem piece_longEscape (h : isControl c) : Piece c (longEscape c) := by
  have hlt : c.toNat < 128 := by
    simp only [isControl, Bool.or_eq_true, Bool.and_eq_true, decide_eq_true_eq] at h
    rcases h with ⟨⟨hspace, -⟩, -⟩ | rfl
    · exact lt_trans (show c.toNat < 32 from hspace) (by decide)
    · decide
  obtain ⟨hlength, hvalue⟩ := digits_of_lt c.toNat hlt
  exact .escape fun rest => codePoint?_append hlength hvalue

theorem Piece.head?_ne_quote {piece : List Char} (h : Piece c piece) :
    (piece ++ rest).head? ≠ some '"' := by
  cases h with
  | plain hquote => simpa using hquote
  | escape => simp

theorem Piece.head?_ne_break {piece : List Char} (h : Piece c piece) :
    (piece ++ rest).head? ≠ some '\n' ∧ (piece ++ rest).head? ≠ some '\r' := by
  cases h with
  | plain _ _ hprintable => simpa using ne_break_of_isPrintable hprintable
  | escape => simp

/-- **What is written of a character** is read as that character, quotes and line breaks
apart. -/
theorem exists_piece (hquote : c ≠ '"') (hbreak : c ≠ '\n') : ∃ piece, Piece c piece
    ∧ ∀ hasLines quotes text, escaped hasLines quotes (c :: text) =
        piece ++ escaped hasLines 0 text := by
  cases hshort : shortEscape? c with
  | some escape =>
    refine ⟨escape, piece_of_shortEscape? hshort, fun hasLines quotes text => ?_⟩
    simp [escaped, hquote, hbreak, hshort]
  | none =>
    by_cases hcontrol : isControl c
    · refine ⟨longEscape c, piece_longEscape hcontrol, fun hasLines quotes text => ?_⟩
      simp [escaped, hquote, hbreak, hshort, hcontrol]
    · have hprintable := isPrintable_of_not_isControl (Bool.eq_false_iff.2 hcontrol) hbreak
      have hescape : c ≠ '\\' := by
        rintro rfl
        cases hshort
      refine ⟨[c], .plain hquote hescape hprintable, fun hasLines quotes text => ?_⟩
      simp [escaped, hquote, hbreak, hshort, hcontrol]

theorem Piece.length_pos {piece : List Char} (h : Piece c piece) : 0 < piece.length := by
  cases h <;> simp

/-- Escapes do not make a text shorter. -/
theorem length_le_escaped {hasLines : Bool} {quotes : Nat} :
    text.length ≤ (escaped hasLines quotes text).length := by
  induction text generalizing quotes with
  | nil => exact Nat.zero_le _
  | cons c text ih =>
    rcases eq_or_ne c '"' with rfl | hquote
    · by_cases hallowed : quotes < if hasLines then 2 else 0
      · rw [escaped, if_pos rfl, if_pos hallowed]
        exact Nat.succ_le_succ ih
      · rw [escaped, if_pos rfl, if_neg hallowed]
        exact Nat.le_succ_of_le (Nat.succ_le_succ ih)
    · rcases eq_or_ne c '\n' with rfl | hbreak
      · have hone : 1 ≤ (if hasLines then ['\n'] else ['\\', 'n']).length := by
          split_ifs <;> decide
        simpa [escaped, Nat.add_comm] using Nat.add_le_add hone (@ih 0)
      · obtain ⟨piece, hpiece, hescaped⟩ := exists_piece hquote hbreak
        rw [hescaped, List.length_append, List.length_cons, Nat.add_comm]
        exact Nat.add_le_add hpiece.length_pos ih

/-! ### One line between double quotes -/

theorem Piece.basic? {piece : List Char} (h : Piece c piece) :
    basic? (fuel + 1) seen (piece ++ rest) = Toml.basic? fuel (c :: seen) rest := by
  cases h with
  | plain hquote hescape hprintable => simp [Toml.basic?, hquote, hescape, hprintable]
  | escape hread => simp [Toml.basic?, hread]

/-- On one line every character is a piece. -/
theorem exists_piece_of_line (c : Char) : ∃ piece, Piece c piece
    ∧ ∀ text, escaped false 0 (c :: text) = piece ++ escaped false 0 text := by
  rcases eq_or_ne c '"' with rfl | hquote
  · exact ⟨['\\', '"'], .escape fun _ => rfl, fun text => by simp [escaped]⟩
  · rcases eq_or_ne c '\n' with rfl | hbreak
    · exact ⟨['\\', 'n'], .escape fun _ => rfl, fun text => by simp [escaped]⟩
    · obtain ⟨piece, hpiece, hescaped⟩ := exists_piece hquote hbreak
      exact ⟨piece, hpiece, hescaped false 0⟩

theorem basic?_escaped (hfuel : text.length < fuel) :
    basic? fuel seen (escaped false 0 text ++ '"' :: rest) =
      some (String.ofList (seen.reverse ++ text), rest) := by
  induction text generalizing fuel seen with
  | nil =>
    obtain ⟨fuel, rfl⟩ := Nat.exists_eq_add_one.2 (Nat.zero_lt_of_lt hfuel)
    simp [escaped, basic?]
  | cons c text ih =>
    obtain ⟨fuel, rfl⟩ := Nat.exists_eq_add_one.2 (Nat.zero_lt_of_lt hfuel)
    obtain ⟨piece, hpiece, hescaped⟩ := exists_piece_of_line c
    rw [hescaped, List.append_assoc, hpiece.basic?, ih (by simpa using hfuel)]
    simp

/-! ### One line between single quotes -/

/-- On one line between single quotes a text stands for itself. -/
theorem literal?_append (hprintable : ∀ c ∈ text, isPrintable c) (hquote : '\'' ∉ text) :
    literal? (text ++ '\'' :: rest) = some (String.ofList text, rest) := by
  have hall : ∀ c ∈ text, (c != '\'' && isPrintable c) = true := by
    intro c hc
    rw [Bool.and_eq_true, bne_iff_ne]
    exact ⟨fun heq => hquote (heq ▸ hc), hprintable c hc⟩
  unfold literal?
  rw [List.takeWhile_append_of_pos hall]
  simp

/-! ### Several lines -/

variable {quote : Char} {count : Nat}

theorem quotes_replicate_append (h : rest.head? ≠ some quote) :
    quotes quote (List.replicate count quote ++ rest) = count := by
  have hrest : rest.takeWhile (fun c => decide (c = quote)) = [] := by
    cases rest with
    | nil => rfl
    | cons c rest => simpa using h
  have hall : ∀ c ∈ List.replicate count quote, decide (c = quote) = true := by
    simp +contextual
  rw [quotes, List.takeWhile_append_of_pos hall, hrest]
  simp

/-- Up to two quotes with something else behind them are part of the text. -/
theorem lines?_run (hcount : count + 1 ≤ 2) (h : rest.head? ≠ some quote) :
    lines? quote (fuel + 1) seen (List.replicate (count + 1) quote ++ rest) =
      lines? quote fuel (List.replicate (count + 1) quote ++ seen) rest := by
  have hquotes := @quotes_replicate_append _ _ (count + 1) h
  rw [List.replicate_succ, List.cons_append] at hquotes ⊢
  rw [lines?, if_pos rfl, hquotes]
  have hlt : count + 1 < 3 := by omega
  simp [hlt, List.replicate_succ]

/-- Three quotes end the text, up to two more before them being part of it. -/
theorem lines?_end (hcount : count ≤ 2) (h : rest.head? ≠ some quote) :
    lines? quote (fuel + 1) seen (List.replicate (count + 3) quote ++ rest) =
      some (String.ofList (seen.reverse ++ List.replicate count quote), rest) := by
  have hquotes := @quotes_replicate_append _ _ (count + 3) h
  rw [List.replicate_succ, List.cons_append] at hquotes ⊢
  rw [lines?, if_pos rfl, hquotes]
  have hge : ¬ count + 3 < 3 := by omega
  have hle : count + 3 ≤ 5 := by omega
  simp [hle]

/-- Between single quotes a character stands for itself. -/
theorem lines?_literal (h : c = '\n' ∨ isPrintable c) (hquote : c ≠ '\'') :
    lines? '\'' (fuel + 1) seen (c :: rest) = lines? '\'' fuel (c :: seen) rest := by
  have hescape : (c == '\\' && '\'' == '"') = false := by simp
  rcases h with rfl | hprintable
  · simp [lines?, afterBreak?]
  · have hbreak : afterBreak? (c :: rest) = none :=
      afterBreak?_eq_none (by simpa using ne_break_of_isPrintable hprintable)
    simp [lines?, hquote, hbreak, hprintable]

theorem lines?_break :
    lines? '"' (fuel + 1) seen ('\n' :: rest) = lines? '"' fuel ('\n' :: seen) rest := by
  simp [lines?, afterBreak?]

theorem Piece.lines? {piece : List Char} (h : Piece c piece) :
    lines? '"' (fuel + 1) seen (piece ++ rest) = Toml.lines? '"' fuel (c :: seen) rest := by
  cases h with
  | plain hquote hescape hprintable =>
    have hbreak : afterBreak? (c :: rest) = none :=
      afterBreak?_eq_none (by simpa using ne_break_of_isPrintable hprintable)
    simp [Toml.lines?, hquote, hescape, hbreak, hprintable]
  | @escape tail hread =>
    cases tail with
    | nil => exact absurd (hread []) nofun
    | cons d tail =>
      -- a backslash before a blank would go on to the next line
      have hblank : (isBlank d || d = '\n' || d = '\r') = false := by
        rw [Bool.eq_false_iff]
        intro hblank
        simp only [isBlank, Bool.or_eq_true, decide_eq_true_eq] at hblank
        rcases hblank with ((rfl | rfl) | rfl) | rfl <;> exact absurd (hread []) nofun
      have hread := hread rest
      rw [List.cons_append] at hread
      simp [Toml.lines?, hblank, hread]

/-- Quotes that were written are part of the text as soon as something else is. -/
theorem exists_lines?_run (hcount : count ≤ 2) (hfuel : count < fuel)
    (h : rest.head? ≠ some quote) : ∃ left, fuel ≤ left + count
      ∧ lines? quote fuel seen (List.replicate count quote ++ rest) =
          lines? quote left (List.replicate count quote ++ seen) rest := by
  cases count with
  | zero => exact ⟨fuel, Nat.le_refl _, rfl⟩
  | succ count =>
    obtain ⟨fuel, rfl⟩ := Nat.exists_eq_add_one.2 (Nat.zero_lt_of_lt hfuel)
    exact ⟨fuel, by omega, lines?_run hcount h⟩

/-- One more step of the reader, once the quotes before it are part of the text. -/
theorem lines?_step {piece tail : List Char} {read : String × List Char} (hcount : count ≤ 2)
    (hfuel : text.length + 1 + count < fuel) (hhead : (piece ++ tail).head? ≠ some quote)
    (hpiece : ∀ fuel seen,
      lines? quote (fuel + 1) seen (piece ++ tail) = lines? quote fuel (c :: seen) tail)
    (ih : ∀ fuel, text.length < fuel →
      lines? quote fuel (c :: (List.replicate count quote ++ seen)) tail = some read) :
    lines? quote fuel seen (List.replicate count quote ++ (piece ++ tail)) = some read := by
  obtain ⟨left, hleft, hrun⟩ := @exists_lines?_run _ seen fuel _ _ hcount (by omega) hhead
  obtain ⟨left, rfl⟩ := Nat.exists_eq_add_one.2 (show 0 < left by omega)
  rw [hrun, hpiece]
  exact ih left (by omega)

/-- Between three double quotes, with `count` quotes written and not yet read. -/
theorem lines?_escaped (hcount : count ≤ 2) (hfuel : text.length + count < fuel)
    (h : rest.head? ≠ some '"') :
    lines? '"' fuel seen
        (List.replicate count '"' ++ (escaped true count text ++ ('"' :: '"' :: '"' :: rest))) =
      some (String.ofList (seen.reverse ++ List.replicate count '"' ++ text), rest) := by
  induction text generalizing count fuel seen with
  | nil =>
    obtain ⟨fuel, rfl⟩ := Nat.exists_eq_add_one.2 (Nat.zero_lt_of_lt hfuel)
    have hend := @lines?_end rest seen fuel '"' count hcount h
    rw [List.replicate_add, List.append_assoc] at hend
    simpa [escaped, List.replicate_succ] using hend
  | cons c text ih =>
    rw [List.length_cons] at hfuel
    have hrest : ∀ fuel, text.length < fuel →
        lines? '"' fuel (c :: (List.replicate count '"' ++ seen))
            (escaped true 0 text ++ ('"' :: '"' :: '"' :: rest)) =
          some (String.ofList (seen.reverse ++ List.replicate count '"' ++ c :: text), rest) := by
      intro fuel hfuel
      simpa using @ih (c :: (List.replicate count '"' ++ seen)) fuel 0 (by omega) hfuel
    rcases eq_or_ne c '"' with rfl | hquote
    · rcases Nat.lt_or_eq_of_le hcount with hlt | rfl
      · have hone := @ih seen fuel (count + 1) (by omega) (by omega)
        rw [List.replicate_add, List.append_assoc, List.append_assoc] at hone
        simpa [escaped, hlt] using hone
      · have hpiece : Piece '"' ['\\', '"'] := .escape fun _ => rfl
        have hstep := lines?_step hcount hfuel hpiece.head?_ne_quote (fun _ _ => hpiece.lines?)
          hrest
        simpa [escaped] using hstep
    · rcases eq_or_ne c '\n' with rfl | hbreak
      · have hstep := @lines?_step _ _ _ _ _ _ ['\n'] _ _ hcount hfuel (by simp)
          (fun _ _ => lines?_break) hrest
        simpa [escaped] using hstep
      · obtain ⟨piece, hpiece, hescaped⟩ := exists_piece hquote hbreak
        rw [hescaped, List.append_assoc]
        exact lines?_step hcount hfuel hpiece.head?_ne_quote (fun _ _ => hpiece.lines?) hrest

/-- Between three single quotes, with `count` quotes written and not yet read. No more than two
stand in a row. -/
theorem lines?_append (hrun : longestRun '\'' count text ≤ 2)
    (hprintable : ∀ c ∈ text, c = '\n' ∨ isPrintable c) (hfuel : text.length + count < fuel)
    (h : rest.head? ≠ some '\'') :
    lines? '\'' fuel seen
        (List.replicate count '\'' ++ (text ++ ('\'' :: '\'' :: '\'' :: rest))) =
      some (String.ofList (seen.reverse ++ List.replicate count '\'' ++ text), rest) := by
  induction text generalizing count fuel seen with
  | nil =>
    obtain ⟨fuel, rfl⟩ := Nat.exists_eq_add_one.2 (Nat.zero_lt_of_lt hfuel)
    have hend := @lines?_end rest seen fuel '\'' count hrun h
    rw [List.replicate_add, List.append_assoc] at hend
    simpa [List.replicate_succ] using hend
  | cons c text ih =>
    rw [List.length_cons] at hfuel
    rw [List.forall_mem_cons] at hprintable
    by_cases hquote : c = '\''
    · subst hquote
      rw [longestRun, if_pos rfl] at hrun
      have hone := @ih seen fuel (count + 1) hrun hprintable.2 (by omega)
      rw [List.replicate_add, List.append_assoc, List.append_assoc] at hone
      simpa using hone
    · rw [longestRun, if_neg hquote, max_le_iff] at hrun
      refine @lines?_step _ _ _ _ _ _ [c] _ _ hrun.1 hfuel (by simpa using hquote)
        (fun _ _ => lines?_literal hprintable.1 hquote) fun fuel hfuel => ?_
      simpa using @ih (c :: (List.replicate count '\'' ++ seen)) fuel 0 hrun.2 hprintable.2 hfuel

/-! ### All styles -/

theorem holds_of_quoteStyle {style : QuoteStyle} (h : quoteStyle text = style)
    (hescapes : style.hasEscapes = false) : style.holds text := by
  unfold quoteStyle at h
  dsimp only at h
  cases hfind : [QuoteStyle.basic, .literal, .basicLines, .literalLines].find?
      (fun style => style.holds text) with
  | none =>
    rw [hfind, Option.getD_none] at h
    split_ifs at h <;> subst h <;> cases hescapes
  | some found =>
    rw [hfind, Option.getD_some] at h
    have hholds := List.find?_some hfind
    exact h ▸ hholds

theorem head?_escaped_ne_break (h : '\n' ∉ text) :
    (escaped true 0 text ++ '"' :: rest).head? ≠ some '\n'
      ∧ (escaped true 0 text ++ '"' :: rest).head? ≠ some '\r' := by
  cases text with
  | nil => simp [escaped]
  | cons c text =>
    rcases eq_or_ne c '"' with rfl | hquote
    · simp [escaped]
    · obtain ⟨piece, hpiece, hescaped⟩ := exists_piece hquote fun hc => h (hc ▸ List.mem_cons_self)
      rw [hescaped, List.append_assoc]
      exact hpiece.head?_ne_break

theorem quoted?_basic (hfuel : text.length < fuel) (h : rest.head? ≠ some '"') :
    quoted? fuel ('"' :: (escaped false 0 text ++ '"' :: rest)) =
      some (String.ofList text, rest) := by
  have hline : quoted? fuel ('"' :: (escaped false 0 text ++ '"' :: rest)) =
      line? fuel ('"' :: (escaped false 0 text ++ '"' :: rest)) := by
    cases text with
    | nil =>
      unfold quoted?
      split
      · rename_i heq
        simp_all [escaped]
      · rename_i heq
        simp at heq
      · rfl
    | cons c text =>
      obtain ⟨piece, hpiece, hescaped⟩ := exists_piece_of_line c
      have hhead := @Piece.head?_ne_quote _ (escaped false 0 text ++ '"' :: rest) _ hpiece
      rw [hescaped, List.append_assoc]
      unfold quoted?
      split
      · rename_i heq
        rw [(List.cons.inj heq).2] at hhead
        exact absurd rfl hhead
      · rename_i heq
        simp at heq
      · rfl
  rw [hline, line?, basic?_escaped hfuel]
  rfl

theorem quoted?_literal (hprintable : ∀ c ∈ text, isPrintable c) (hquote : '\'' ∉ text)
    (h : rest.head? ≠ some '\'') :
    quoted? fuel ('\'' :: (text ++ '\'' :: rest)) = some (String.ofList text, rest) := by
  have hline : quoted? fuel ('\'' :: (text ++ '\'' :: rest)) =
      line? fuel ('\'' :: (text ++ '\'' :: rest)) := by
    unfold quoted?
    split
    · rename_i heq
      simp at heq
    · rename_i heq
      cases text with
      | nil => simp_all
      | cons c text =>
        rw [List.cons_append] at heq
        simp at heq
        simp_all
    · rfl
  rw [hline, line?, literal?_append hprintable hquote]

/-- A single quote is a run of its own at least. -/
theorem le_longestRun {mark : Char} : count ≤ longestRun mark count text := by
  induction text generalizing count with
  | nil => exact Nat.le_refl _
  | cons c text ih =>
    rw [longestRun]
    split_ifs
    · exact (Nat.le_succ _).trans ih
    · exact le_max_left _ _

theorem longestRun_pos_of_mem {mark : Char} (h : mark ∈ text) : 0 < longestRun mark count text := by
  induction text generalizing count with
  | nil => exact absurd h List.not_mem_nil
  | cons c text ih =>
    rw [longestRun]
    split_ifs with hc
    · exact (Nat.succ_pos _).trans_le le_longestRun
    · have hmem := (List.mem_cons.1 h).resolve_left fun heq => hc heq.symm
      exact (ih hmem).trans_le (le_max_right _ _)

theorem forall_isPrintable_of_holds {style : QuoteStyle} (h : style.holds text) :
    ∀ c ∈ text, c = '\n' ∨ isPrintable c := by
  intro c hc
  simp only [QuoteStyle.holds, Bool.and_eq_true, Bool.not_eq_true', List.any_eq_false] at h
  refine or_iff_not_imp_left.2 fun hbreak => isPrintable_of_not_isControl ?_ hbreak
  exact Bool.eq_false_iff.2 (h.1.1.1 c hc)

theorem quoted?_basicLines (hfuel : text.length < fuel) (h : rest.head? ≠ some '"') :
    quoted? fuel ('"' :: '"' :: '"' ::
        ((if text.contains '\n' then ['\n'] else [])
          ++ (escaped true 0 text ++ ('"' :: '"' :: '"' :: rest)))) =
      some (String.ofList text, rest) := by
  have hbreak : (afterBreak? ((if text.contains '\n' then ['\n'] else [])
      ++ (escaped true 0 text ++ ('"' :: '"' :: '"' :: rest)))).getD
        ((if text.contains '\n' then ['\n'] else [])
          ++ (escaped true 0 text ++ ('"' :: '"' :: '"' :: rest))) =
      escaped true 0 text ++ ('"' :: '"' :: '"' :: rest) := by
    by_cases hmem : '\n' ∈ text
    · simp [hmem, afterBreak?]
    · simp [hmem, afterBreak?_eq_none (head?_escaped_ne_break hmem)]
  rw [quoted?, hbreak]
  simpa using @lines?_escaped _ _ [] _ 0 (by omega) hfuel h

theorem quoted?_literalLines (hprintable : ∀ c ∈ text, c = '\n' ∨ isPrintable c)
    (hrun : longestRun '\'' 0 text ≤ 2) (hfuel : text.length < fuel)
    (h : rest.head? ≠ some '\'') :
    quoted? fuel ('\'' :: '\'' :: '\'' ::
        ((if text.contains '\n' then ['\n'] else [])
          ++ (text ++ ('\'' :: '\'' :: '\'' :: rest)))) =
      some (String.ofList text, rest) := by
  have hbreak : (afterBreak? ((if text.contains '\n' then ['\n'] else [])
      ++ (text ++ ('\'' :: '\'' :: '\'' :: rest)))).getD
        ((if text.contains '\n' then ['\n'] else [])
          ++ (text ++ ('\'' :: '\'' :: '\'' :: rest))) =
      text ++ ('\'' :: '\'' :: '\'' :: rest) := by
    by_cases hmem : '\n' ∈ text
    · simp [hmem, afterBreak?]
    · have hnone : afterBreak? (text ++ ('\'' :: '\'' :: '\'' :: rest)) = none := by
        refine afterBreak?_eq_none ?_
        cases text with
        | nil => simp
        | cons c text =>
          have hc := (hprintable c List.mem_cons_self).resolve_left fun hc =>
            hmem (hc ▸ List.mem_cons_self)
          simpa using ne_break_of_isPrintable hc
      simp [hmem, hnone]
  rw [quoted?, hbreak]
  simpa using @lines?_append _ _ [] _ 0 hrun hprintable hfuel h

/-- A text is no longer than what is written of it. -/
theorem length_le_quote (value : String) :
    value.toList.length ≤ (Toml.quote value).toList.length := by
  unfold Toml.quote
  dsimp only
  rw [String.toList_ofList, List.length_append]
  refine le_trans ?_ (Nat.le_add_right _ _)
  rw [List.length_append]
  refine le_trans ?_ (Nat.le_add_left _ _)
  split_ifs
  · exact length_le_escaped
  · exact Nat.le_refl _

theorem head?_quote (value : String) :
    (Toml.quote value).toList.head? = some '"' ∨ (Toml.quote value).toList.head? = some '\'' := by
  unfold Toml.quote
  dsimp only
  cases quoteStyle value.toList <;> simp [QuoteStyle.delimiter]

/-- **A quoted text is read back**, whatever stands behind it. -/
theorem quoted?_quote {value : String} (hfuel : value.toList.length < fuel)
    (hdouble : rest.head? ≠ some '"') (hsingle : rest.head? ≠ some '\'') :
    quoted? fuel ((Toml.quote value).toList ++ rest) = some (value, rest) := by
  cases hstyle : quoteStyle value.toList with
  | basic =>
    have hbasic := quoted?_basic hfuel hdouble
    simpa [Toml.quote, hstyle, QuoteStyle.delimiter, QuoteStyle.hasLines,
      QuoteStyle.hasEscapes] using hbasic
  | literal =>
    have hholds := holds_of_quoteStyle hstyle rfl
    have hprintable := forall_isPrintable_of_holds hholds
    simp only [QuoteStyle.holds, QuoteStyle.hasLines, QuoteStyle.hasEscapes, Bool.and_eq_true,
      Bool.false_or, Bool.not_eq_true', List.contains_eq_mem, decide_eq_false_iff_not] at hholds
    obtain ⟨⟨⟨-, hrun⟩, hline⟩, -⟩ := hholds
    have hquote : '\'' ∉ value.toList := fun hmem =>
      absurd (of_decide_eq_true hrun) (Nat.not_le_of_lt (longestRun_pos_of_mem hmem))
    have hliteral := @quoted?_literal _ _ fuel (fun c hc => (hprintable c hc).resolve_left
      fun hbreak => hline (hbreak ▸ hc)) hquote hsingle
    simpa [Toml.quote, hstyle, QuoteStyle.delimiter, QuoteStyle.hasLines,
      QuoteStyle.hasEscapes] using hliteral
  | basicLines =>
    have hlines := quoted?_basicLines hfuel hdouble
    simpa [Toml.quote, hstyle, QuoteStyle.delimiter, QuoteStyle.hasLines,
      QuoteStyle.hasEscapes] using hlines
  | literalLines =>
    have hholds := holds_of_quoteStyle hstyle rfl
    have hprintable := forall_isPrintable_of_holds hholds
    simp only [QuoteStyle.holds, QuoteStyle.hasLines, QuoteStyle.hasEscapes, Bool.and_eq_true,
      decide_eq_true_eq] at hholds
    have hlines := quoted?_literalLines hprintable hholds.1.1.2 hfuel hsingle
    simpa [Toml.quote, hstyle, QuoteStyle.delimiter, QuoteStyle.hasLines,
      QuoteStyle.hasEscapes] using hlines

end LogForwarding.Toml
