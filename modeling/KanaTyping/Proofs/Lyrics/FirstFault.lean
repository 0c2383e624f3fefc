import KanaTyping.Proofs.Lyrics.Sheet

/-!
# Songs — the first faulty line

A line of a sheet is blank, or a line of lyrics is read from it (`Reads`), or it is `Faulty` and has
one fault (`FaultIn`): it has not two fields, or else the first is no duration, or else the second
is no markup.

* `parseLine_of_reads` and `parseLine_of_faultIn`: each line is read so, and there is no fourth
  kind of line (`blank_or_reads_or_faultIn`).
* `parseLines_eq_error_iff`: the first faulty line gives the fault, by its number on the sheet.
* `reads_of_parseLines`: with no faulty line, the lines of lyrics are those read from the lines that
  are not blank, in order.

`first_faulty_line_decides` puts them together for whole sheets.
-/

namespace KanaTyping.Song

variable {sheet text : List Char} {texts : List (List Char)} {line n : Nat} {t : TimedLyric}
variable {fault : Fault}

/-- The line of lyrics `t` is read from a line of two fields, its duration and its markup. -/
def Reads (text : List Char) (t : TimedLyric) : Prop :=
  ∃ duration markup, Text.fields text = [duration, markup] ∧
    Text.Denotes (Text.trim duration) t.duration.toNat ∧ Lyric.parse markup = .ok t.lyric

/-- The fault of a line with the number `line`: it has not two fields, or the first of two is no
number of milliseconds, or it is one and the second is no markup. -/
inductive FaultIn (line : Nat) (text : List Char) : Fault → Prop
  | fields (count : (Text.fields text).length ≠ 2) :
      FaultIn line text (.fields line (Text.fields text).length)
  | duration {duration markup : List Char} (two : Text.fields text = [duration, markup])
      (number : ∀ n < UInt32.size, ¬ Text.Denotes (Text.trim duration) n) :
      FaultIn line text (.duration line duration)
  | markup {duration markup : List Char} {n : Nat} {fault : Lyric.Fault}
      (two : Text.fields text = [duration, markup])
      (number : Text.Denotes (Text.trim duration) n) (bound : n < UInt32.size)
      (markup : Lyric.parse markup = .error fault) :
      FaultIn line text (.markup line fault)

/-- The line is not blank, and no line of lyrics is read from it. -/
def Faulty (text : List Char) : Prop :=
  text.all Text.isBlank = false ∧ ∀ t, ¬ Reads text t

/-! ### One line -/

theorem parseLine_of_blank (line : Nat) (h : text.all Text.isBlank = true) :
    parseLine line text = .ok none :=
  if_pos h

theorem parseLine_of_reads (line : Nat) (hb : text.all Text.isBlank = false) (h : Reads text t) :
    parseLine line text = .ok (some t) := by
  obtain ⟨duration, markup, htwo, hnumber, hmarkup⟩ := h
  have hms : Text.natBelow UInt32.size (Text.trim duration) = some t.duration.toNat :=
    Text.natBelow_eq_some_iff.mpr ⟨hnumber, t.duration.toNat_lt⟩
  simp [parseLine, hb, htwo, hms, hmarkup]

theorem parseLine_of_faultIn (hb : text.all Text.isBlank = false) (h : FaultIn line text fault) :
    parseLine line text = .error fault := by
  cases h with
  | fields count =>
      simp only [parseLine, hb, Bool.false_eq_true, if_false]
      split
      · next htwo => rw [htwo] at count; cases count rfl
      · rfl
  | duration htwo number =>
      have hms : Text.natBelow UInt32.size (Text.trim _) = none :=
        Option.eq_none_iff_forall_ne_some.mpr fun n hn =>
          number n (Text.natBelow_eq_some_iff.mp hn).2 (Text.natBelow_eq_some_iff.mp hn).1
      simp [parseLine, hb, htwo, hms]
  | markup htwo number bound markup =>
      have hms := Text.natBelow_eq_some_iff.mpr ⟨number, bound⟩
      simp [parseLine, hb, htwo, hms, markup]

/-- There is no fourth kind of line. -/
theorem blank_or_reads_or_faultIn (line : Nat) (text : List Char) :
    text.all Text.isBlank = true ∨
      text.all Text.isBlank = false ∧
        ((∃ t, Reads text t) ∨ ∃ fault, FaultIn line text fault) := by
  cases hb : text.all Text.isBlank with
  | true => exact .inl rfl
  | false =>
      refine .inr ⟨rfl, ?_⟩
      by_cases htwo : ∃ duration markup, Text.fields text = [duration, markup]
      · obtain ⟨duration, markup, htwo⟩ := htwo
        by_cases hms : ∃ n < UInt32.size, Text.Denotes (Text.trim duration) n
        · obtain ⟨n, bound, number⟩ := hms
          cases hmarkup : Lyric.parse markup with
          | ok l =>
              refine .inl ⟨⟨UInt32.ofNat n, l⟩, duration, markup, htwo, ?_, hmarkup⟩
              rwa [UInt32.toNat_ofNat_of_lt' bound]
          | error fault => exact .inr ⟨_, .markup htwo number bound hmarkup⟩
        · exact .inr ⟨_, .duration htwo fun n hn hd => hms ⟨n, hn, hd⟩⟩
      · refine .inr ⟨_, .fields fun hlength => htwo ?_⟩
        exact List.length_eq_two.mp hlength

/-- A faulty line has a fault, whatever its number. -/
theorem Faulty.exists_faultIn (h : Faulty text) (line : Nat) :
    ∃ fault, FaultIn line text fault := by
  obtain ⟨hb, hno⟩ := h
  obtain hb' | ⟨-, ⟨t, ht⟩ | hfault⟩ := blank_or_reads_or_faultIn line text
  · rw [hb] at hb'
    cases hb'
  · exact absurd ht (hno t)
  · exact hfault

theorem parseLine_eq_error_iff :
    parseLine line text = .error fault ↔ Faulty text ∧ FaultIn line text fault := by
  constructor
  · intro h
    obtain hb | ⟨hb, ⟨t, ht⟩ | ⟨fault', hf⟩⟩ := blank_or_reads_or_faultIn line text
    · rw [parseLine_of_blank line hb] at h
      cases h
    · rw [parseLine_of_reads line hb ht] at h
      cases h
    · rw [parseLine_of_faultIn hb hf] at h
      cases h
      refine ⟨⟨hb, fun t ht => ?_⟩, hf⟩
      -- a line with a fault is not read
      have hread := (parseLine_of_reads line hb ht).symm.trans (parseLine_of_faultIn hb hf)
      cases hread
  · rintro ⟨⟨hb, -⟩, hf⟩
    exact parseLine_of_faultIn hb hf

theorem parseLine_eq_ok_iff {found : Option TimedLyric} :
    parseLine line text = .ok found ↔
      text.all Text.isBlank = true ∧ found = none ∨
        text.all Text.isBlank = false ∧ ∃ t, Reads text t ∧ found = some t := by
  constructor
  · intro h
    obtain hb | ⟨hb, ⟨t, ht⟩ | ⟨fault, hf⟩⟩ := blank_or_reads_or_faultIn line text
    · rw [parseLine_of_blank line hb] at h
      cases h
      exact .inl ⟨hb, rfl⟩
    · rw [parseLine_of_reads line hb ht] at h
      cases h
      exact .inr ⟨hb, t, ht, rfl⟩
    · rw [parseLine_of_faultIn hb hf] at h
      cases h
  · rintro (⟨hb, rfl⟩ | ⟨hb, t, ht, rfl⟩)
    · exact parseLine_of_blank line hb
    · exact parseLine_of_reads line hb ht

/-- A line is read when it is not faulty. -/
theorem exists_parseLine_iff (line : Nat) :
    (∃ found, parseLine line text = .ok found) ↔ ¬ Faulty text := by
  cases h : parseLine line text with
  | error fault => simp [(parseLine_eq_error_iff.mp h).1]
  | ok found =>
      refine iff_of_true ⟨found, rfl⟩ fun hf => ?_
      obtain ⟨hb, -⟩ | ⟨-, t, ht, -⟩ := parseLine_eq_ok_iff.mp h
      · rw [hf.1] at hb
        cases hb
      · exact hf.2 t ht

/-! ### The lines of a sheet -/

theorem parseLines_cons_eq_error_iff :
    parseLines n (text :: texts) = .error fault ↔ Faulty text ∧ FaultIn n text fault ∨
      ¬ Faulty text ∧ parseLines (n + 1) texts = .error fault := by
  rw [← parseLine_eq_error_iff, ← exists_parseLine_iff n, parseLines]
  cases parseLine n text with
  | error fault' => simp
  | ok found => cases parseLines (n + 1) texts <;> simp

/-- The first faulty line gives the fault. -/
theorem parseLines_eq_error_iff :
    parseLines n texts = .error fault ↔ ∃ before text after, texts = before ++ text :: after ∧
      (∀ line ∈ before, ¬ Faulty line) ∧ Faulty text ∧
      FaultIn (before.length + n) text fault := by
  induction texts generalizing n with
  | nil => simp [parseLines]
  | cons first texts ih =>
      have hcount (before : List (List Char)) :
          (first :: before).length + n = before.length + (n + 1) := by
        rw [List.length_cons, Nat.add_right_comm, Nat.add_assoc]
      rw [parseLines_cons_eq_error_iff]
      constructor
      · rintro (⟨hfirst, hfault⟩ | ⟨hfirst, hrest⟩)
        · exact ⟨[], first, texts, rfl, by simp, hfirst, by simpa using hfault⟩
        · obtain ⟨before, text, after, rfl, hbefore, htext, hfault⟩ := ih.mp hrest
          exact ⟨first :: before, text, after, rfl, List.forall_mem_cons.mpr ⟨hfirst, hbefore⟩,
            htext, by rwa [hcount]⟩
      · rintro ⟨_ | ⟨line, before⟩, text, after, hsplit, hbefore, htext, hfault⟩
        · obtain ⟨rfl, rfl⟩ := List.cons_eq_cons.mp hsplit
          exact .inl ⟨htext, by simpa using hfault⟩
        · obtain ⟨rfl, rfl⟩ := List.cons_eq_cons.mp hsplit
          rw [hcount] at hfault
          obtain ⟨hfirst, hbefore⟩ := List.forall_mem_cons.mp hbefore
          exact .inr ⟨hfirst, ih.mpr ⟨before, text, after, rfl, hbefore, htext, hfault⟩⟩

/-- Lines behind a faulty one are not looked at. -/
theorem parseLines_append_faulty (before : List (List Char)) (h : Faulty text)
    (after after' : List (List Char)) :
    parseLines n (before ++ text :: after) = parseLines n (before ++ text :: after') := by
  induction before generalizing n with
  | nil =>
      obtain ⟨fault, hf⟩ := h.exists_faultIn n
      simp [parseLines, parseLine_eq_error_iff.mpr ⟨h, hf⟩]
  | cons line before ih => rw [List.cons_append, List.cons_append, parseLines, parseLines, ih]

/-- Lines are read when none of them is faulty. -/
theorem exists_parseLines_iff :
    (∃ ts, parseLines n texts = .ok ts) ↔ ∀ text ∈ texts, ¬ Faulty text := by
  induction texts generalizing n with
  | nil => simp [parseLines]
  | cons text texts ih =>
      rw [List.forall_mem_cons, ← ih, ← exists_parseLine_iff n]
      constructor
      · rintro ⟨ts, hts⟩
        obtain ⟨found, ts', hfound, hrest, -⟩ := parseLines_cons_eq_ok_iff.mp hts
        exact ⟨⟨found, hfound⟩, ts', hrest⟩
      · rintro ⟨⟨found, hfound⟩, ts', hrest⟩
        exact ⟨_, parseLines_cons_eq_ok_iff.mpr ⟨found, ts', hfound, hrest, rfl⟩⟩

/-- The lines of lyrics are those read from the lines that are not blank, in order. -/
theorem reads_of_parseLines {ts : List TimedLyric} (h : parseLines n texts = .ok ts) :
    List.Forall₂ Reads (texts.filter fun text => !text.all Text.isBlank) ts := by
  induction texts generalizing n ts with
  | nil => cases h; exact .nil
  | cons text texts ih =>
      obtain ⟨found, ts', hfound, hrest, rfl⟩ := parseLines_cons_eq_ok_iff.mp h
      obtain ⟨hb, rfl⟩ | ⟨hb, t, ht, rfl⟩ := parseLine_eq_ok_iff.mp hfound
      · rw [List.filter_cons_of_neg (by simp [hb])]
        exact ih hrest
      · rw [List.filter_cons_of_pos (by simp [hb])]
        exact .cons ht (ih hrest)

/-! ### Whole sheets -/

theorem sheetLines_eq_nil_iff : sheetLines sheet = [] ↔ sheet = [] := by
  rw [sheetLines, List.map_eq_nil_iff, Text.lines_eq_nil_iff]

/-- With too few fields on its first line, nothing else of a sheet is looked at. -/
theorem parse_of_length_lt {first : List Char} (hs : sheetLines sheet = first :: texts)
    (h : (Text.fields first).length < 4) :
    parse sheet = .error (.header (Text.fields first).length) := by
  simp only [parse, hs]
  split
  · next hfields => simp only [hfields, List.length_cons] at h; omega
  · rfl

/-- With enough of them a song has its lines from the others, and all else from the first. -/
theorem exists_parse_eq_map {first : List Char} (h : 4 ≤ (Text.fields first).length) :
    ∃ s : Song, ∀ sheet texts, sheetLines sheet = first :: texts →
      parse sheet = (parseLines 2 texts).map fun lines => { s with lines } := by
  rcases hfields : Text.fields first with _ | ⟨name, _ | ⟨artist, _ | ⟨genre, _ | ⟨stream, more⟩⟩⟩⟩
  case cons.cons.cons.cons =>
    refine ⟨⟨name, artist, genre, stream, more.head?, []⟩, fun sheet texts hs => ?_⟩
    simp only [parse, hs, hfields]
    cases parseLines 2 texts <;> rfl
  all_goals simp [hfields] at h

theorem parse_eq_error_iff {first : List Char} (hs : sheetLines sheet = first :: texts)
    (h : 4 ≤ (Text.fields first).length) :
    parse sheet = .error fault ↔ ∃ before text after, texts = before ++ text :: after ∧
      (∀ line ∈ before, ¬ Faulty line) ∧ Faulty text ∧
      FaultIn (before.length + 2) text fault := by
  obtain ⟨s, hparse⟩ := exists_parse_eq_map h
  rw [hparse sheet texts hs, ← parseLines_eq_error_iff]
  cases parseLines 2 texts <;> simp [Except.map]

/-- A text has no first line, or too few fields on it, or is refused for one of the lines after it
if at all. -/
theorem parse_cases (sheet : List Char) :
    sheet = [] ∧ parse sheet = .error .missingHeader ∨
      ∃ first rest, sheetLines sheet = first :: rest ∧
        ((Text.fields first).length < 4 ∧
            parse sheet = .error (.header (Text.fields first).length) ∨
          ∀ fault, parse sheet = .error fault → ∃ line text, FaultIn line text fault) := by
  cases hs : sheetLines sheet with
  | nil =>
      obtain rfl := sheetLines_eq_nil_iff.mp hs
      exact .inl ⟨rfl, rfl⟩
  | cons first rest =>
      refine .inr ⟨first, rest, rfl, ?_⟩
      rcases Nat.lt_or_ge (Text.fields first).length 4 with hlt | hle
      · exact .inl ⟨hlt, parse_of_length_lt hs hlt⟩
      · refine .inr fun fault h => ?_
        obtain ⟨_, _, _, -, -, -, hfault⟩ := (parse_eq_error_iff hs hle).mp h
        exact ⟨_, _, hfault⟩

/-- **The first faulty line decides.**  A text is refused for want of a first line exactly when it
is empty, and for `k` fields on its first line exactly when there are `k` of them and fewer than
four.  With four or more, the text is refused with a fault exactly when it is the fault of the first
faulty line, by the number of that line; what follows a faulty line changes nothing; and with no
faulty line a song is read, whose lines of lyrics are those read from the lines that are not blank,
each one once and in order. -/
theorem first_faulty_line_decides (sheet : List Char) :
    (parse sheet = .error .missingHeader ↔ sheet = []) ∧
      (∀ k, parse sheet = .error (.header k) ↔ ∃ first rest, sheetLines sheet = first :: rest ∧
        (Text.fields first).length = k ∧ k < 4) ∧
      ∀ first rest, sheetLines sheet = first :: rest → 4 ≤ (Text.fields first).length →
        (∀ fault, parse sheet = .error fault ↔ ∃ before text after,
          rest = before ++ text :: after ∧ (∀ line ∈ before, ¬ Faulty line) ∧ Faulty text ∧
            FaultIn (before.length + 2) text fault) ∧
        (∀ before text after, rest = before ++ text :: after → Faulty text →
          ∀ sheet' after', sheetLines sheet' = first :: (before ++ text :: after') →
            parse sheet' = parse sheet) ∧
        ((∀ text ∈ rest, ¬ Faulty text) → ∃ s, parse sheet = .ok s ∧
          List.Forall₂ Reads (rest.filter fun text => !text.all Text.isBlank) s.lines) := by
  refine ⟨⟨fun h => ?_, fun h => h ▸ rfl⟩, fun k => ⟨fun h => ?_, ?_⟩, fun first rest hs hle => ?_⟩
  · obtain ⟨hnil, -⟩ | ⟨first, rest, -, ⟨-, hparse⟩ | hfault⟩ := parse_cases sheet
    · exact hnil
    · rw [hparse] at h
      cases h
    · obtain ⟨_, _, hf⟩ := hfault _ h
      cases hf
  · obtain ⟨-, hparse⟩ | ⟨first, rest, hs, ⟨hlt, hparse⟩ | hfault⟩ := parse_cases sheet
    · rw [hparse] at h
      cases h
    · rw [hparse] at h
      cases h
      exact ⟨first, rest, hs, rfl, hlt⟩
    · obtain ⟨_, _, hf⟩ := hfault _ h
      cases hf
  · rintro ⟨first, rest, hs, rfl, hlt⟩
    exact parse_of_length_lt hs hlt
  · obtain ⟨s, hparse⟩ := exists_parse_eq_map hle
    refine ⟨fun fault => parse_eq_error_iff hs hle, ?_, fun hgood => ?_⟩
    · rintro before text after rfl hfaulty sheet' after' hs'
      rw [hparse sheet' _ hs', hparse sheet _ hs, parseLines_append_faulty before hfaulty]
    · obtain ⟨ts, hts⟩ := exists_parseLines_iff.mpr hgood
      exact ⟨{ s with lines := ts }, by rw [hparse sheet _ hs, hts]; rfl, reads_of_parseLines hts⟩

/-- A sheet with a blank line, a good one and one without a duration, whatever follows it. -/
theorem first_faulty_line_decides_sample :
    let sheet := "a\tb\tc\td\n\n100\tあ\r\nx\ty\n".toList
    let longer := "a\tb\tc\td\n\n100\tあ\r\nx\ty\n200\n(".toList
    let shorter := "a\tb\tc\td\n\n100\tあ\r\n".toList
    parse sheet = .error (.duration 4 ['x']) ∧ parse longer = parse sheet ∧
      ∃ s, parse shorter = .ok s ∧ List.Forall₂ Reads ["100\tあ".toList] s.lines := by
  intro sheet longer shorter
  obtain ⟨hfaulty, hfault⟩ : Faulty "x\ty".toList ∧ FaultIn 4 "x\ty".toList (.duration 4 ['x']) :=
    parseLine_eq_error_iff.mp rfl
  have hgood : ∀ text ∈ [[], "100\tあ".toList], ¬ Faulty text := by
    refine List.forall_mem_cons.mpr ⟨?_, List.forall_mem_singleton.mpr ?_⟩
    · exact (exists_parseLine_iff 2).mp ⟨_, rfl⟩
    · exact (exists_parseLine_iff 3).mp ⟨_, rfl⟩
  obtain ⟨-, -, hsheet⟩ := first_faulty_line_decides sheet
  obtain ⟨hfirst, hbehind, -⟩ :=
    hsheet "a\tb\tc\td".toList [[], "100\tあ".toList, "x\ty".toList] rfl (by decide)
  obtain ⟨-, -, hshorter⟩ := first_faulty_line_decides shorter
  obtain ⟨-, -, hread⟩ :=
    hshorter "a\tb\tc\td".toList [[], "100\tあ".toList] rfl (by decide)
  refine ⟨(hfirst _).mpr ⟨[[], "100\tあ".toList], _, [], rfl, hgood, hfaulty, hfault⟩, ?_, ?_⟩
  · exact hbehind [[], "100\tあ".toList] _ [] rfl hfaulty longer ["200".toList, "(".toList] rfl
  · exact hread hgood

end KanaTyping.Song
