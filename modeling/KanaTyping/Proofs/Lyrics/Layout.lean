import KanaTyping.Proofs.Lyrics.FirstFault

/-!
# Songs — the layout of a sheet

A sheet may be laid out in more than one way: with or without carriage returns before its line
feeds, with longer or shorter runs of tabs (`Retabbed`), with or without a line feed at its end, and
with blank lines put in after the first one (`Spacing`).

* `parse_congr`: what is read depends on the fields of the lines and on which lines are blank
  (`Alike`).
* `sheetLines_crlf`, `parse_retab` and `parse_append_newline`: so each of the first three gives the
  same song or the same fault.
* `parseLines_spaced`: a blank line gives nothing, and moves the lines behind it.

`layout_moves_only_line_numbers` puts them together.
-/

namespace KanaTyping.Song

variable {sheet sheet' text first : List Char} {texts texts' blanks : List (List Char)}
variable {fault : Fault} {line n : Nat}

/-- The texts are the same but for the lengths of their runs of tabs. -/
inductive Retabbed : List Char → List Char → Prop
  | nil : Retabbed [] []
  | char {c : Char} {cs ds : List Char} (noTab : c ≠ '\t') (rest : Retabbed cs ds) :
      Retabbed (c :: cs) (c :: ds)
  | tabs {cs ds : List Char} (m n : Nat) (rest : Retabbed cs ds) :
      Retabbed (List.replicate (m + 1) '\t' ++ cs) (List.replicate (n + 1) '\t' ++ ds)

/-- Blank lines to put in after the first line of a sheet: before each of its other lines those it
is paired with, and some behind them all. -/
structure Spacing where
  placed : List (List (List Char) × List Char)
  trailing : List (List Char)
  blank : ∀ text ∈ placed.flatMap Prod.fst ++ trailing, text.all Text.isBlank = true

namespace Spacing

/-- The lines without the blank ones put in. -/
def kept (x : Spacing) : List (List Char) :=
  x.placed.map Prod.snd

/-- The lines with the blank ones put in. -/
def spaced (x : Spacing) : List (List Char) :=
  (x.placed.flatMap fun p => p.1 ++ [p.2]) ++ x.trailing

/-- Where the line with the number `line` comes to stand, behind the lines put in before it.  The
first line of the sheet has the number one. -/
def place (x : Spacing) (line : Nat) : Nat :=
  line + ((x.placed.take (line - 1)).flatMap Prod.fst).length

end Spacing

/-- The fault of the same line at another place. -/
def Fault.moveLine (place : Nat → Nat) : Fault → Fault
  | missingHeader => missingHeader
  | header n => header n
  | fields line n => fields (place line) n
  | duration line field => duration (place line) field
  | markup line fault => markup (place line) fault

/-! ### What the reader looks at -/

/-- The lines have the same fields, and both are blank or neither is. -/
def Alike (text text' : List Char) : Prop :=
  Text.fields text = Text.fields text' ∧ text.all Text.isBlank = text'.all Text.isBlank

theorem parseLines_congr (h : List.Forall₂ Alike texts texts') :
    parseLines n texts = parseLines n texts' := by
  induction h generalizing n with
  | nil => rfl
  | cons hfirst _ ih =>
      obtain ⟨hfields, hblank⟩ := hfirst
      rw [parseLines, parseLines, parseLine, parseLine, hfields, hblank, ih]

theorem parse_congr (h : List.Forall₂ Alike (sheetLines sheet) (sheetLines sheet')) :
    parse sheet = parse sheet' := by
  simp only [parse]
  generalize sheetLines sheet = texts at h
  generalize sheetLines sheet' = texts' at h
  cases h with
  | nil => rfl
  | cons hfirst hrest => simp only [hfirst.1, parseLines_congr hrest]

/-! ### Carriage returns -/

theorem sheetLines_cons_newline (cs : List Char) :
    sheetLines ('\n' :: cs) = [] :: sheetLines cs := by
  rw [sheetLines, Text.lines_cons_newline]
  rfl

theorem sheetLines_cons {c : Char} (hc : c ≠ '\n') (cs : List Char) :
    sheetLines (c :: cs) =
      trimEnd (c :: (sheetLines cs).head?.getD []) :: (sheetLines cs).tail := by
  have hfirst (l : List Char) : trimEnd (c :: trimEnd l) = trimEnd (c :: l) :=
    Text.dropEnd_append_dropEnd [c] l
  rw [sheetLines, sheetLines, Text.lines_cons hc]
  cases Text.lines cs with
  | nil => rfl
  | cons l ls => exact congrArg (· :: ls.map trimEnd) (hfirst l).symm

/-- Carriage returns before the line feeds come off with those at the ends of the lines. -/
theorem sheetLines_crlf (sheet : List Char) :
    sheetLines (sheet.flatMap fun c => if c = '\n' then ['\r', '\n'] else [c]) =
      sheetLines sheet := by
  induction sheet with
  | nil => rfl
  | cons c cs ih =>
      rw [List.flatMap_cons]
      split
      · next hc =>
        rw [hc, List.cons_append, List.singleton_append, sheetLines_cons (by decide),
          sheetLines_cons_newline, sheetLines_cons_newline, ih]
        rfl
      · next hc =>
        rw [List.singleton_append, sheetLines_cons hc, sheetLines_cons hc, ih]

/-! ### Tabs -/

theorem Retabbed.refl (text : List Char) : Retabbed text text := by
  induction text with
  | nil => exact .nil
  | cons c cs ih =>
      by_cases hc : c = '\t'
      · exact hc ▸ .tabs 0 0 ih
      · exact .char hc ih

theorem alike_refl (text : List Char) : Alike text text :=
  ⟨rfl, rfl⟩

/-- Two runs of tabs between the same characters part the same fields. -/
theorem alike_tabs (l r : List Char) (m n : Nat) :
    Alike (l ++ (List.replicate (m + 1) '\t' ++ r)) (l ++ (List.replicate (n + 1) '\t' ++ r)) := by
  have hfields (k : Nat) :
      Text.fields (l ++ (List.replicate (k + 1) '\t' ++ r)) = Text.fields l ++ Text.fields r := by
    induction k generalizing l with
    | zero => exact Text.fields_append_tab l r
    | succ k ih =>
        rw [List.replicate_succ, List.cons_append, Text.fields_append_tab]
        exact congrArg (Text.fields l ++ ·) (ih [])
  have htab : Text.isBlank '\t' = true := rfl
  exact ⟨by rw [hfields, hfields], by simp [List.all_append, htab]⟩

/-- Only behind the tabs is there anything to take off. -/
theorem trimEnd_append_tabs (l r : List Char) (n : Nat) :
    trimEnd (l ++ (List.replicate (n + 1) '\t' ++ r)) =
      l ++ (List.replicate (n + 1) '\t' ++ trimEnd r) := by
  have hlast : trimEnd (l ++ List.replicate n '\t' ++ '\t' :: r) =
      l ++ List.replicate n '\t' ++ '\t' :: trimEnd r := Text.dropEnd_append_cons (by decide)
  simpa [List.replicate_succ'] using hlast

/-- One run of tabs may be of any length. -/
theorem parse_retab (front back : List Char) (m n : Nat) :
    parse (front ++ (List.replicate (m + 1) '\t' ++ back)) =
      parse (front ++ (List.replicate (n + 1) '\t' ++ back)) := by
  obtain ⟨before, l, r, after, hlines⟩ := Text.exists_lines_append front back
  have hsheet (k : Nat) : sheetLines (front ++ (List.replicate (k + 1) '\t' ++ back)) =
      before.map trimEnd ++ (l ++ (List.replicate (k + 1) '\t' ++ trimEnd r)) ::
        after.map trimEnd := by
    rw [sheetLines, hlines _ (by simp) (by simp), List.map_append, List.map_cons,
      ← trimEnd_append_tabs]
    rfl
  refine parse_congr ?_
  rw [hsheet, hsheet]
  have hsame (texts : List (List Char)) : List.Forall₂ Alike texts texts :=
    List.forall₂_same.mpr fun text _ => alike_refl text
  exact List.rel_append (hsame _) (.cons (alike_tabs l _ m n) (hsame _))

theorem Retabbed.parse_eq (h : Retabbed sheet sheet') : parse sheet = parse sheet' := by
  suffices hfront : ∀ front, parse (front ++ sheet) = parse (front ++ sheet') from hfront []
  induction h with
  | nil => exact fun _ => rfl
  | @char c cs ds _ _ ih =>
      intro front
      rw [List.append_cons, ih, ← List.append_cons]
  | @tabs cs ds m n _ ih =>
      intro front
      rw [parse_retab front cs m n, ← List.append_assoc, ih, List.append_assoc]

/-! ### Blank lines -/

/-- Blank lines give nothing, and move the lines behind them. -/
theorem parseLines_blanks_append (h : ∀ text ∈ blanks, text.all Text.isBlank = true)
    (texts : List (List Char)) :
    parseLines n (blanks ++ texts) = parseLines (n + blanks.length) texts := by
  induction blanks generalizing n with
  | nil => rfl
  | cons text blanks ih =>
      rw [List.forall_mem_cons] at h
      rw [List.cons_append, parseLines, parseLine_of_blank n h.1, ih h.2, List.length_cons,
        Nat.add_right_comm, Nat.add_assoc]
      cases parseLines (n + (blanks.length + 1)) texts <;> rfl

/-- Behind all other lines they change nothing. -/
theorem parseLines_append_blanks (h : ∀ text ∈ blanks, text.all Text.isBlank = true)
    (texts : List (List Char)) : parseLines n (texts ++ blanks) = parseLines n texts := by
  induction texts generalizing n with
  | nil =>
      rw [List.nil_append, ← List.append_nil blanks, parseLines_blanks_append h]
      rfl
  | cons text texts ih => rw [List.cons_append, parseLines, parseLines, ih]

theorem FaultIn.moveLine (h : FaultIn line text fault) (place : Nat → Nat) :
    FaultIn (place line) text (fault.moveLine place) := by
  cases h with
  | fields count => exact .fields count
  | duration two number => exact .duration two number
  | markup two number bound markup => exact .markup two number bound markup

theorem parseLine_moveLine (place : Nat → Nat) (line : Nat) (text : List Char) :
    parseLine (place line) text = (parseLine line text).mapError (Fault.moveLine place) := by
  obtain hb | ⟨hb, ⟨t, ht⟩ | ⟨fault, hf⟩⟩ := blank_or_reads_or_faultIn line text
  · rw [parseLine_of_blank _ hb, parseLine_of_blank _ hb]
    rfl
  · rw [parseLine_of_reads _ hb ht, parseLine_of_reads _ hb ht]
    rfl
  · rw [parseLine_of_faultIn hb hf, parseLine_of_faultIn hb (hf.moveLine place)]
    rfl

/-- Blank lines put in move the lines, and so the fault. -/
theorem parseLines_placed {place : Nat → Nat} {n k : Nat}
    {placed : List (List (List Char) × List Char)}
    (h : ∀ text ∈ placed.flatMap Prod.fst, text.all Text.isBlank = true)
    (hplace : ∀ i < placed.length,
      place (n + i) = k + i + ((placed.take (i + 1)).flatMap Prod.fst).length) :
    parseLines k (placed.flatMap fun p => p.1 ++ [p.2]) =
      (parseLines n (placed.map Prod.snd)).mapError (Fault.moveLine place) := by
  induction placed generalizing n k with
  | nil => rfl
  | cons p placed ih =>
      obtain ⟨blanks, text⟩ := p
      simp only [List.flatMap_cons, List.forall_mem_append] at h
      have hfirst : k + blanks.length = place n := by simpa using (hplace 0 (by simp)).symm
      -- the lines behind come one further, and behind the blank ones before this line
      have hrest : ∀ i < placed.length, place (n + 1 + i) =
          place n + 1 + i + ((placed.take (i + 1)).flatMap Prod.fst).length := fun i hi => by
        have hi' := hplace (i + 1) (by simpa using hi)
        simp only [List.take_succ_cons, List.flatMap_cons, List.length_append] at hi'
        rw [Nat.add_assoc n 1 i, Nat.add_comm 1 i, hi', ← hfirst]
        omega
      rw [List.flatMap_cons, List.append_assoc, parseLines_blanks_append h.1, hfirst,
        List.singleton_append, List.map_cons, parseLines, parseLines, parseLine_moveLine,
        ih h.2 hrest]
      cases parseLine n text with
      | error fault => rfl
      | ok found => cases parseLines (n + 1) (placed.map Prod.snd) <;> rfl

namespace Spacing

/-- The same lines without the carriage returns at their ends. -/
def trim (x : Spacing) : Spacing where
  placed := x.placed.map (Prod.map (List.map trimEnd) trimEnd)
  trailing := x.trailing.map trimEnd
  blank := by
    have hmap : (x.placed.map (Prod.map (List.map trimEnd) trimEnd)).flatMap Prod.fst ++
        x.trailing.map trimEnd = (x.placed.flatMap Prod.fst ++ x.trailing).map trimEnd := by
      simp [List.flatMap_map, List.map_flatMap]
    rw [hmap, List.forall_mem_map]
    intro text htext
    rw [List.all_eq_true]
    exact fun c hc =>
      List.all_eq_true.mp (x.blank text htext) c (Text.dropEnd_subset _ _ hc)

theorem kept_trim (x : Spacing) : x.trim.kept = x.kept.map trimEnd := by
  simp [kept, trim]

theorem spaced_trim (x : Spacing) : x.trim.spaced = x.spaced.map trimEnd := by
  simp [spaced, trim, List.flatMap_map, List.map_flatMap]

theorem place_trim (x : Spacing) : x.trim.place = x.place := by
  funext line
  simp [place, trim, ← List.map_take, List.flatMap_map]

end Spacing

theorem parseLines_spaced (x : Spacing) :
    parseLines 2 x.spaced = (parseLines 2 x.kept).mapError (Fault.moveLine x.place) := by
  obtain ⟨hplaced, htrailing⟩ := List.forall_mem_append.mp x.blank
  rw [Spacing.spaced, parseLines_append_blanks htrailing]
  refine parseLines_placed hplaced fun i _ => ?_
  have hindex : 2 + i - 1 = i + 1 := by omega
  rw [Spacing.place, hindex]

/-- Blank lines put in after the first line only move the lines behind them. -/
theorem parse_spaced (x : Spacing) (hs : Text.lines sheet = first :: x.kept)
    (hs' : Text.lines sheet' = first :: x.spaced) :
    parse sheet' = (parse sheet).mapError (Fault.moveLine x.place) := by
  have hkept : sheetLines sheet = trimEnd first :: x.trim.kept := by
    rw [sheetLines, hs, x.kept_trim]
    rfl
  have hspaced : sheetLines sheet' = trimEnd first :: x.trim.spaced := by
    rw [sheetLines, hs', x.spaced_trim]
    rfl
  rcases Nat.lt_or_ge (Text.fields (trimEnd first)).length 4 with hlt | hle
  · rw [parse_of_length_lt hkept hlt, parse_of_length_lt hspaced hlt]
    rfl
  · obtain ⟨s, hparse⟩ := exists_parse_eq_map hle
    rw [hparse sheet _ hkept, hparse sheet' _ hspaced, parseLines_spaced, x.place_trim]
    cases parseLines 2 x.trim.kept <;> rfl

/-- A line feed at the end of a sheet that has a first line changes nothing. -/
theorem parse_append_newline (h : sheet ≠ []) : parse (sheet ++ ['\n']) = parse sheet := by
  obtain ⟨first, texts, hs⟩ := List.exists_cons_of_ne_nil (mt sheetLines_eq_nil_iff.mp h)
  rcases Text.lines_append_newline sheet with hsame | hmore
  · rw [parse, parse, sheetLines, sheetLines, hsame]
  · have hs' : sheetLines (sheet ++ ['\n']) = first :: (texts ++ [[]]) := by
      rw [sheetLines, hmore, List.map_append]
      exact congrArg (· ++ [[]]) hs
    have hend : parseLines 2 (texts ++ [[]]) = parseLines 2 texts :=
      parseLines_append_blanks (List.forall_mem_singleton.mpr rfl) texts
    simp only [parse, hs, hs', hend]

/-- **Layout moves only line numbers.**  From every text the same song is read, or it is refused
with the same fault, with carriage returns put in before its line feeds, with runs of tabs of other
lengths, and, if there is anything in it, with a line feed put in at its end.  With blank lines put
in after its first line the same song is read too, or the line of the fault is further down by the
number of lines put in before it, and all else in the fault is the same. -/
theorem layout_moves_only_line_numbers (sheet : List Char) :
    parse (sheet.flatMap fun c => if c = '\n' then ['\r', '\n'] else [c]) = parse sheet ∧
      (∀ sheet', Retabbed sheet sheet' → parse sheet' = parse sheet) ∧
      (sheet ≠ [] → parse (sheet ++ ['\n']) = parse sheet) ∧
      ∀ (x : Spacing) (first : List Char) (sheet' : List Char),
        Text.lines sheet = first :: x.kept → Text.lines sheet' = first :: x.spaced →
          parse sheet' = (parse sheet).mapError (Fault.moveLine x.place) := by
  refine ⟨?_, fun _ h => h.parse_eq.symm, parse_append_newline, fun x _ _ => parse_spaced x⟩
  rw [parse, parse, sheetLines_crlf]

/-- A faulty line by itself, and behind a line of a tab and one of a carriage return. -/
theorem layout_moves_only_line_numbers_sample :
    let sheet := "a\tb\tc\td\nx\t7\n200\tあ".toList
    let retabbed := "a\t\tb\tc\t\t\td\nx\t7\n200\tあ".toList
    let spaced := "a\tb\tc\td\n\t\n\r\nx\t7\n \n200\tあ".toList
    let x : Spacing := ⟨[(["\t".toList, "\r".toList], "x\t7".toList),
      ([" ".toList], "200\tあ".toList)], [], by decide⟩
    Retabbed sheet retabbed ∧ parse sheet = .error (.duration 2 ['x']) ∧
      parse retabbed = parse sheet ∧ parse (sheet ++ ['\n']) = parse sheet ∧ x.place 2 = 4 ∧
      parse spaced = .error (.duration 4 ['x']) := by
  intro sheet retabbed spaced x
  have hparse : parse sheet = .error (.duration 2 ['x']) := rfl
  have htabs : Retabbed sheet retabbed :=
    .char (by decide) <| .tabs 0 1 <| .char (by decide) <| .tabs 0 0 <| .char (by decide) <|
      .tabs 0 2 <| .refl _
  obtain ⟨-, hretab, hnewline, hspace⟩ := layout_moves_only_line_numbers sheet
  refine ⟨htabs, hparse, hretab retabbed htabs, hnewline (by decide), rfl, ?_⟩
  rw [hspace x "a\tb\tc\td".toList spaced rfl rfl, hparse]
  rfl

end KanaTyping.Song
