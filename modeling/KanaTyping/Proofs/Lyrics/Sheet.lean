import KanaTyping.Lyrics.Song
import KanaTyping.Proofs.Lyrics.Markup
import KanaTyping.Proofs.Text.Pieces

/-!
# Songs — reading and writing their sheets

A sheet can hold a song when nothing in it is taken for the end of a field or of a line.  Such a
song is `Expressible`: its fields are not empty and have no tab and no line feed in them, its lines
of lyrics are canonical and not empty and their markups have no tab and no line feed in them, and
no line of the sheet ends in a carriage return.

* `unbroken_of_parse`: what is read from any sheet has no tab and no line feed in it.
* `Unbroken.sheetLines_write`: without these a song is written on one line for its fields and one
  for each line of lyrics, and only carriage returns at their ends are lost.
* `Unbroken.fields_header_iff` and `parseLine_line_eq_self_iff`: when these lines are read back.

`parse_write_iff_expressible` puts them together: a song is read back from its sheet exactly when
it is expressible.
-/

namespace KanaTyping

namespace Lyric

variable {l : Lyric} {markup : List Char}

/-- A markup is read as the canonical line that writes it. -/
theorem parse_eq_ok_iff : parse markup = .ok l ↔ l.write = markup ∧ l.Canonical := by
  constructor
  · exact fun h => ⟨write_of_parse h, canonical_of_parse h⟩
  · rintro ⟨rfl, h⟩
    exact parse_write h

/-- A canonical line that writes nothing has no parts. -/
theorem Canonical.write_eq_nil_iff (h : l.Canonical) : l.write = [] ↔ l.parts = [] := by
  constructor
  · intro hw
    refine List.eq_nil_iff_forall_not_mem.mpr fun p hp => ?_
    have hpw : p.write = [] := List.flatMap_eq_nil_iff.mp hw p hp
    cases p with
    | plain text => exact h.filled _ hp (congrArg Part.plain hpw)
    | ruby base reading => cases hpw
  · intro hl
    rw [write, hl]
    rfl

end Lyric

/-- A line of a sheet without the carriage returns at its end. -/
def Song.trimEnd (line : List Char) : List Char :=
  Text.dropEnd (· == '\r') line

namespace TimedLyric

/-- The line of a sheet for a line of lyrics, without its line feed. -/
def line (t : TimedLyric) : List Char :=
  (toString t.duration.toNat).toList ++ '\t' :: t.lyric.write

/-- A line of lyrics that a sheet can hold. -/
structure Expressible (t : TimedLyric) : Prop where
  canonical : t.lyric.Canonical
  filled : t.lyric.parts ≠ []
  unbroken : '\t' ∉ t.lyric.write ∧ '\n' ∉ t.lyric.write
  ending : t.lyric.write.getLast? ≠ some '\r'

theorem write_eq_line (t : TimedLyric) : t.write = t.line ++ ['\n'] := by
  simp [write, line]

theorem notMem_line (t : TimedLyric) (h : '\n' ∉ t.lyric.write) : '\n' ∉ t.line := fun hmem => by
  rcases List.mem_append.mp hmem with hdigit | hmem
  · exact Text.notMem_toString (by decide) _ hdigit
  · exact h (List.mem_of_ne_of_mem (by decide) hmem)

end TimedLyric

namespace Song

variable {s : Song} {t : TimedLyric} {ts : List TimedLyric} {sheet text : List Char} {n : Nat}
variable {texts : List (List Char)} {found : Option TimedLyric}

/-- A song that a sheet can hold. -/
structure Expressible (s : Song) : Prop where
  fields : ∀ f ∈ s.header, f ≠ [] ∧ '\t' ∉ f ∧ '\n' ∉ f
  ending : ∀ f ∈ s.header.getLast?, f.getLast? ≠ some '\r'
  lines : ∀ t ∈ s.lines, t.Expressible

/-- No field of the song is empty, and nothing in it is a tab or a line feed. -/
structure Unbroken (s : Song) : Prop where
  fields : ∀ f ∈ s.header, f ≠ [] ∧ '\t' ∉ f ∧ '\n' ∉ f
  lines : ∀ t ∈ s.lines, '\t' ∉ t.lyric.write ∧ '\n' ∉ t.lyric.write

/-! ### What is read -/

theorem parse_eq_ok_iff :
    parse sheet = .ok s ↔ ∃ first rest more, sheetLines sheet = first :: rest ∧
      Text.fields first = s.name :: s.artist :: s.genre :: s.stream :: more ∧
      s.background = more.head? ∧ parseLines 2 rest = .ok s.lines := by
  constructor
  · intro h
    rw [parse] at h
    split at h
    · cases h
    · next first rest hsheet =>
      split at h
      · next hfirst =>
        split at h
        · cases h
        · next hrest =>
          cases h
          exact ⟨_, _, _, hsheet, hfirst, rfl, hrest⟩
      · cases h
  · rintro ⟨first, rest, more, hsheet, hfirst, hback, hrest⟩
    simp only [parse, hsheet, hfirst, hrest, ← hback]

/-- A line of lyrics is read from a line of two fields, the second of which is its markup. -/
theorem write_mem_fields (h : parseLine n text = .ok (some t)) :
    t.lyric.write ∈ Text.fields text := by
  rw [parseLine] at h
  split at h
  · cases h
  · split at h
    · next duration markup hfields =>
      split at h
      · cases h
      · split at h
        · cases h
        · next lyric hlyric =>
          cases h
          rw [hfields, Lyric.write_of_parse hlyric]
          simp
    · cases h

theorem parseLines_cons_eq_ok_iff :
    parseLines n (text :: texts) = .ok ts ↔ ∃ found ts', parseLine n text = .ok found ∧
      parseLines (n + 1) texts = .ok ts' ∧ ts = found.toList ++ ts' := by
  rw [parseLines]
  cases parseLine n text with
  | error fault => simp
  | ok found =>
      cases parseLines (n + 1) texts with
      | error fault => simp
      | ok ts' => simp [eq_comm]

/-- Every line of lyrics is read from one of the lines. -/
theorem exists_parseLine (h : parseLines n texts = .ok ts) (ht : t ∈ ts) :
    ∃ text ∈ texts, ∃ k, parseLine k text = .ok (some t) := by
  induction texts generalizing n ts with
  | nil => cases h; cases ht
  | cons text texts ih =>
      obtain ⟨found, ts', hfound, hrest, rfl⟩ := parseLines_cons_eq_ok_iff.mp h
      rcases List.mem_append.mp ht with ht | ht
      · rw [Option.mem_toList] at ht
        exact ⟨text, List.mem_cons_self, n, ht ▸ hfound⟩
      · obtain ⟨text', htext', hk⟩ := ih hrest ht
        exact ⟨text', List.mem_cons_of_mem _ htext', hk⟩

theorem notMem_of_mem_sheetLines (h : text ∈ sheetLines sheet) : '\n' ∉ text := by
  obtain ⟨line, hline, rfl⟩ := List.mem_map.mp h
  exact fun hmem => Text.notMem_of_mem_lines hline (Text.dropEnd_subset _ _ hmem)

/-- What is read has no tab and no line feed in it. -/
theorem unbroken_of_parse (h : parse sheet = .ok s) : s.Unbroken := by
  obtain ⟨first, rest, more, hsheet, hfirst, hback, hrest⟩ := parse_eq_ok_iff.mp h
  have hline : ∀ text ∈ first :: rest, '\n' ∉ text := fun text htext =>
    notMem_of_mem_sheetLines (hsheet ▸ htext)
  constructor
  · intro f hf
    -- the fields of the song are the first ones of the line
    have hmem : f ∈ Text.fields first := by
      rw [hfirst]
      rw [header, hback] at hf
      rcases List.mem_append.mp hf with hf | hf
      · exact List.mem_append_left more hf
      · rw [Option.mem_toList] at hf
        exact List.mem_append_right [s.name, s.artist, s.genre, s.stream] (List.mem_of_head? hf)
    obtain ⟨hne, htab, hsub⟩ := Text.mem_fields hmem
    exact ⟨hne, htab, fun hf => hline first List.mem_cons_self (hsub hf)⟩
  · intro t ht
    obtain ⟨text, htext, k, hk⟩ := exists_parseLine hrest ht
    obtain ⟨-, htab, hsub⟩ := Text.mem_fields (write_mem_fields hk)
    exact ⟨htab, fun hw => hline text (List.mem_cons_of_mem _ htext) (hsub hw)⟩

/-! ### What is written -/

/-- The lines of a song's sheet. -/
theorem Unbroken.sheetLines_write (h : s.Unbroken) :
    sheetLines s.write =
      trimEnd (['\t'].intercalate s.header) :: s.lines.map fun t => trimEnd t.line := by
  have hheader : '\n' ∉ ['\t'].intercalate s.header := fun hmem => by
    obtain hn | ⟨f, hf, hn⟩ := Text.mem_intercalate hmem
    · cases hn
    · exact (h.fields f hf).2.2 hn
  have hlines : ∀ line ∈ s.lines.map TimedLyric.line, '\n' ∉ line :=
    List.forall_mem_map.mpr fun t ht => t.notMem_line (h.lines t ht).2
  have hwrite : s.write = ['\t'].intercalate s.header ++ '\n' ::
      (s.lines.map TimedLyric.line).flatMap (· ++ ['\n']) := by
    rw [write, List.flatMap_map, funext TimedLyric.write_eq_line]
  rw [sheetLines, hwrite, Text.lines_append hheader, Text.lines_flatMap hlines, List.map_cons,
    List.map_map]
  rfl

/-! ### What is read back -/

theorem trimEnd_eq_self_iff {line : List Char} :
    trimEnd line = line ↔ line.getLast? ≠ some '\r' := by
  rw [trimEnd, Text.dropEnd_eq_self_iff]
  cases line.getLast? <;> simp

/-- Of fields put together, all are read back but for the end of the last one. -/
theorem fields_trimEnd {fs : List (List Char)} {last : List Char} (hne : ∀ f ∈ fs, f ≠ [])
    (htab : ∀ f ∈ fs ++ [last], '\t' ∉ f) :
    Text.fields (trimEnd (['\t'].intercalate (fs ++ [last]))) =
      fs ++ [trimEnd last].filter (!·.isEmpty) := by
  have htab' : ∀ f ∈ fs ++ [trimEnd last], '\t' ∉ f := by
    intro f hf
    rcases List.mem_append.mp hf with hf | hf
    · exact htab f (List.mem_append_left _ hf)
    · rw [List.mem_singleton.mp hf]
      exact fun hmem => htab last (by simp) (Text.dropEnd_subset _ _ hmem)
  have hfs : fs.filter (!·.isEmpty) = fs :=
    List.filter_eq_self.mpr fun f hf => by simpa using hne f hf
  rw [trimEnd, Text.dropEnd_intercalate (by decide), ← trimEnd, Text.fields_intercalate htab',
    List.filter_append, hfs]

/-- The fields of a song are read back from their line when it does not end in a carriage return. -/
theorem Unbroken.fields_header_iff (h : s.Unbroken) :
    (∃ more, Text.fields (trimEnd (['\t'].intercalate s.header)) =
        s.name :: s.artist :: s.genre :: s.stream :: more ∧ s.background = more.head?) ↔
      ∀ f ∈ s.header.getLast?, f.getLast? ≠ some '\r' := by
  have hheader : s.header = [s.name, s.artist, s.genre, s.stream] ++ s.background.toList := rfl
  obtain ⟨fs, last, hs⟩ : ∃ fs last, s.header = fs ++ [last] :=
    (List.eq_nil_or_concat' s.header).resolve_left (by simp [hheader])
  have hne : ∀ f ∈ fs ++ [last], f ≠ [] := fun f hf => (h.fields f (hs ▸ hf)).1
  have htab : ∀ f ∈ fs ++ [last], '\t' ∉ f := fun f hf => (h.fields f (hs ▸ hf)).2.1
  have hfirst : Text.fields (trimEnd (['\t'].intercalate s.header)) =
      fs ++ [trimEnd last].filter (!·.isEmpty) := by
    rw [hs, fields_trimEnd (fun f hf => hne f (List.mem_append_left _ hf)) htab]
  calc _ ↔ fs ++ [trimEnd last].filter (!·.isEmpty) = s.header := by
          rw [hfirst]
          constructor
          · rintro ⟨more, hmore, hback⟩
            -- no more fields are read than were written
            have hlength : more.length ≤ s.background.toList.length := by
              have hle := List.length_filter_le (!·.isEmpty) [trimEnd last]
              have hread := congrArg List.length hmore
              have hwritten := congrArg List.length (hheader.symm.trans hs)
              simp only [List.length_append, List.length_cons, List.length_nil] at hle hread hwritten
              omega
            rw [hmore, hheader, hback]
            rw [hback] at hlength
            rcases more with _ | ⟨b, _ | ⟨c, more⟩⟩ <;> simp at hlength ⊢
          · intro hread
            exact ⟨s.background.toList, hread, by cases s.background <;> rfl⟩
    _ ↔ trimEnd last = last := by
          rw [hs, List.append_cancel_left_eq]
          by_cases hlast : trimEnd last = []
          · have : last ≠ [] := hne last (by simp)
            simp [hlast, this.symm]
          · simp [hlast]
    _ ↔ _ := by
          rw [hs, trimEnd_eq_self_iff]
          simp

/-- The line of a sheet for a line of lyrics has two fields, of which the second may lose its end. -/
theorem fields_line (htab : '\t' ∉ t.lyric.write) :
    Text.fields (trimEnd t.line) =
      (toString t.duration.toNat).toList :: [trimEnd t.lyric.write].filter (!·.isEmpty) := by
  have hline : t.line =
      ['\t'].intercalate ([(toString t.duration.toNat).toList] ++ [t.lyric.write]) := by
    simp [TimedLyric.line]
  rw [hline, fields_trimEnd (List.forall_mem_singleton.mpr (Text.toString_ne_nil _)),
    List.singleton_append]
  rw [List.singleton_append, List.forall_mem_cons]
  exact ⟨Text.notMem_toString (by decide) _, List.forall_mem_singleton.mpr htab⟩

theorem not_blank_line (t : TimedLyric) : ¬ (trimEnd t.line).all Text.isBlank = true := by
  obtain ⟨c, cs, hnumber⟩ :=
    List.exists_cons_of_ne_nil (Text.toString_ne_nil t.duration.toNat)
  have hc : Text.isBlank c = false :=
    Text.isBlank_of_isDigit (Text.isDigit_of_mem_toString (hnumber ▸ List.mem_cons_self))
  rw [trimEnd, TimedLyric.line, Text.dropEnd_append_cons (by decide), hnumber]
  simp [hc]

/-- The line of a sheet for a line of lyrics is read by its markup. -/
theorem parseLine_line_iff (n : Nat) (htab : '\t' ∉ t.lyric.write) :
    parseLine n (trimEnd t.line) = .ok found ↔ trimEnd t.lyric.write ≠ [] ∧
      ∃ l, Lyric.parse (trimEnd t.lyric.write) = .ok l ∧ found = some ⟨t.duration, l⟩ := by
  have hms : Text.natBelow UInt32.size (Text.trim (toString t.duration.toNat).toList) =
      some t.duration.toNat := by
    rw [Text.trim_toString, Text.natBelow_toString t.duration.toNat_lt]
  rw [parseLine, if_neg (not_blank_line t), fields_line htab]
  by_cases hm : trimEnd t.lyric.write = []
  · simp [hm]
  · have hmarkup : [trimEnd t.lyric.write].filter (!·.isEmpty) = [trimEnd t.lyric.write] := by
      simp [hm]
    simp only [hmarkup, hms]
    cases Lyric.parse (trimEnd t.lyric.write) with
    | error fault => simp
    | ok l => simp [hm, eq_comm]

/-- A line of lyrics is read back from its line exactly when a sheet can hold it. -/
theorem parseLine_line_eq_self_iff (n : Nat) (htab : '\t' ∉ t.lyric.write) :
    parseLine n (trimEnd t.line) = .ok (some t) ↔
      t.lyric.Canonical ∧ t.lyric.parts ≠ [] ∧ t.lyric.write.getLast? ≠ some '\r' := by
  rw [parseLine_line_iff n htab, ← trimEnd_eq_self_iff]
  constructor
  · rintro ⟨hne, l, hl, ht⟩
    obtain ⟨hwrite, hcanonical⟩ := Lyric.parse_eq_ok_iff.mp hl
    obtain rfl : t.lyric = l := congrArg TimedLyric.lyric (Option.some.inj ht)
    refine ⟨hcanonical, fun hparts => hne ?_, hwrite.symm⟩
    rw [← hwrite, hcanonical.write_eq_nil_iff, hparts]
  · rintro ⟨hcanonical, hparts, hend⟩
    rw [hend, ne_eq, hcanonical.write_eq_nil_iff]
    exact ⟨hparts, t.lyric, Lyric.parse_write hcanonical, rfl⟩

theorem parseLines_lines_iff (n : Nat) (htabs : ∀ t ∈ ts, '\t' ∉ t.lyric.write) :
    parseLines n (ts.map fun t => trimEnd t.line) = .ok ts ↔ ∀ t ∈ ts,
      t.lyric.Canonical ∧ t.lyric.parts ≠ [] ∧ t.lyric.write.getLast? ≠ some '\r' := by
  induction ts generalizing n with
  | nil => simp [parseLines]
  | cons t ts ih =>
      rw [List.forall_mem_cons] at htabs ⊢
      rw [List.map_cons, parseLines_cons_eq_ok_iff, ← ih (n + 1) htabs.2,
        ← parseLine_line_eq_self_iff n htabs.1]
      constructor
      · rintro ⟨found, ts', hfound, hrest, heq⟩
        -- no line for a line of lyrics is blank
        obtain ⟨-, l, -, rfl⟩ := (parseLine_line_iff n htabs.1).mp hfound
        rw [Option.toList_some, List.singleton_append, List.cons_eq_cons] at heq
        obtain ⟨ht, rfl⟩ := heq
        rw [← ht] at hfound
        exact ⟨hfound, hrest⟩
      · rintro ⟨ht, hrest⟩
        exact ⟨some t, ts, ht, hrest, rfl⟩

/-- **Reading and writing a sheet.**  A song is read back from its sheet exactly when its fields are
not empty and have no tab and no line feed in them, its lines of lyrics are canonical and not empty
and their markups have no tab and no line feed in them, and neither the last of the fields nor a
markup ends in a carriage return. -/
theorem parse_write_iff_expressible (s : Song) : parse s.write = .ok s ↔ s.Expressible := by
  constructor
  · intro h
    have hs : s.Unbroken := unbroken_of_parse h
    obtain ⟨first, rest, more, hsheet, hfirst, hback, hrest⟩ := parse_eq_ok_iff.mp h
    rw [hs.sheetLines_write] at hsheet
    obtain ⟨rfl, rfl⟩ := List.cons_eq_cons.mp hsheet
    have hlines := (parseLines_lines_iff 2 fun t ht => (hs.lines t ht).1).mp hrest
    refine ⟨hs.fields, hs.fields_header_iff.mp ⟨more, hfirst, hback⟩, fun t ht => ?_⟩
    obtain ⟨hcanonical, hparts, hend⟩ := hlines t ht
    exact ⟨hcanonical, hparts, hs.lines t ht, hend⟩
  · intro h
    have hs : s.Unbroken := ⟨h.fields, fun t ht => (h.lines t ht).unbroken⟩
    obtain ⟨more, hfirst, hback⟩ := hs.fields_header_iff.mpr h.ending
    refine parse_eq_ok_iff.mpr ⟨_, _, more, hs.sheetLines_write, hfirst, hback, ?_⟩
    refine (parseLines_lines_iff 2 fun t ht => (hs.lines t ht).1).mpr fun t ht => ?_
    exact ⟨(h.lines t ht).canonical, (h.lines t ht).filled, (h.lines t ht).ending⟩

end Song

end KanaTyping
