import KanaTyping.CommandLine.Outcome
import KanaTyping.Settings.Session

/-!
# Settings — what is in force

A session takes at most one document, and the settings that it answers are the same from the first
time on.

* `step_answer`: what a call can do (`Step`).
* `Offers`: what the settings will be, once a document has been taken or they have been asked for.
  It outlives every call (`Offers.step`), and so holds after any calls (`Offers.answerAll`).
* `notMem_taken` and `taken_once`: no document is taken after another.
* `answerAll_eraseIdx`: a call that is refused could as well not have been made.

Documents may be read by any `Toml.Decoder` that has the standard document right (`ReadsStandard`).
`settings_settled_once` is the law of the settings in force.  A document that is taken after
the settings have been asked for is without effect: `in_force_iff_given_first`.
-/

namespace KanaTyping.Settings

theorem eq_ok_of_toOption {r : Except Fault Settings} {s : Settings} (h : r.toOption = some s) :
    r = .ok s := by
  cases r with
  | error fault => cases h
  | ok t => exact congrArg Except.ok (Option.some.inj h)

/-- The standard document is one of the standard settings. -/
theorem parse_standardText : parse standardText.toList = .ok standard := by
  apply eq_ok_of_toOption
  unfold standardText
  repeat rw [String.toList_append]
  decide +kernel

/-- A reader of documents by which the standard document is one of the standard settings. -/
class ReadsStandard [Toml.Decoder] : Prop where
  standard : parse standardText.toList = .ok standard

instance : ReadsStandard := ⟨parse_standardText⟩

namespace Session

section Decoder

variable [Toml.Decoder]

variable {n m : Session} {call : Call} {calls : List Call} {a : Answer} {s : Settings}
variable {answers : List Answer} {document : List Char} {fault : Fault} {i j : Nat}

/-- What a call finds, is answered and leaves. -/
inductive Step (n : Session) : Call → Answer → Session → Prop where
  | taken {document : List Char} {s : Settings} (read : parse document = .ok s)
      (first : n.given = none) : Step n (.give document) .taken { n with given := some document }
  | late {document : List Char} {s : Settings} (read : parse document = .ok s)
      (given : n.given ≠ none) : Step n (.give document) (.refused .alreadyGiven) n
  | faulty {document : List Char} {fault : Fault} (read : parse document = .error fault) :
      Step n (.give document) (.refused fault) n
  | fixed {s : Settings} (fixed : n.fixed = some s) : Step n .ask (.inForce s) n
  | fixes {s : Settings} (read : parse (n.given.getD standardText.toList) = .ok s)
      (first : n.fixed = none) : Step n .ask (.inForce s) { n with fixed := some s }
  | broken {fault : Fault} (read : parse (n.given.getD standardText.toList) = .error fault)
      (first : n.fixed = none) : Step n .ask (.broken fault) n

/-- The first document that can be read is taken. -/
theorem answer_give (read : parse document = .ok s) (first : n.given = none) :
    n.answer (.give document) = (.taken, { n with given := some document }) := by
  simp only [answer, give, read, first]

/-- A document that can be read is refused after another. -/
theorem answer_give_again (read : parse document = .ok s) (given : n.given ≠ none) :
    n.answer (.give document) = (.refused .alreadyGiven, n) := by
  obtain ⟨first, hfirst⟩ := Option.ne_none_iff_exists'.mp given
  simp only [answer, give, read, hfirst]

/-- When they are first asked for, the settings are read and fixed. -/
theorem answer_ask (read : parse (n.given.getD standardText.toList) = .ok s)
    (first : n.fixed = none) : n.answer .ask = (.inForce s, { n with fixed := some s }) := by
  simp only [answer, ask, read, first]

theorem step_answer (n : Session) (call : Call) : n.Step call (n.answer call).1 (n.answer call).2 := by
  cases call with
  | give document =>
      cases hread : parse document with
      | error fault =>
          simp only [answer, give, hread]
          exact .faulty hread
      | ok s =>
          by_cases hgiven : n.given = none
          · rw [answer_give hread hgiven]
            exact .taken hread hgiven
          · rw [answer_give_again hread hgiven]
            exact .late hread hgiven
  | ask =>
      cases hfixed : n.fixed with
      | some s =>
          simp only [answer, ask, hfixed]
          exact .fixed hfixed
      | none =>
          cases hread : parse (n.given.getD standardText.toList) with
          | error fault =>
              simp only [answer, ask, hfixed, hread]
              exact .broken hread hfixed
          | ok s =>
              rw [answer_ask hread hfixed]
              exact .fixes hread hfixed

theorem answerAll_cons (n : Session) (call : Call) (calls : List Call) :
    n.answerAll (call :: calls) =
      ((n.answer call).1 :: ((n.answer call).2.answerAll calls).1,
        ((n.answer call).2.answerAll calls).2) :=
  rfl

/-- Every call is answered by the session that the calls before it have left. -/
theorem getElem?_answerAll (n : Session) (calls : List Call) (i : Nat) :
    (n.answerAll calls).1[i]? =
      calls[i]?.map fun call => ((n.answerAll (calls.take i)).2.answer call).1 := by
  induction calls generalizing n i with
  | nil => rfl
  | cons call calls ih =>
      cases i with
      | zero => rfl
      | succ i => simp [answerAll_cons, ih]

/-! ### The settings on offer -/

/-- The settings that are answered from now on: those fixed, or else those of the document taken. -/
def Offers (n : Session) (s : Settings) : Prop :=
  n.fixed = some s ∨ n.fixed = none ∧ ∃ document, n.given = some document ∧ parse document = .ok s

theorem offers_of_given (read : parse document = .ok s) (hgiven : n.given = some document)
    (hfixed : n.fixed = none) : n.Offers s :=
  .inr ⟨hfixed, document, hgiven, read⟩

/-- What is on offer stays so, and is what is answered. -/
theorem Offers.step (h : n.Offers s) (hstep : n.Step call a m) :
    m.Offers s ∧ (call = .ask → a = .inForce s) := by
  cases hstep with
  | taken read first =>
      obtain hfixed | ⟨-, d, hd, -⟩ := h
      · exact ⟨.inl hfixed, nofun⟩
      · simp [first] at hd
  | late | faulty => exact ⟨h, nofun⟩
  | fixed fixed =>
      obtain hfixed | ⟨hfixed, -⟩ := h
      · obtain rfl := Option.some.inj (hfixed.symm.trans fixed)
        exact ⟨.inl hfixed, fun _ => rfl⟩
      · simp [fixed] at hfixed
  | fixes read first =>
      obtain hfixed | ⟨-, d, hd, hread⟩ := h
      · simp [first] at hfixed
      · rw [hd, Option.getD_some, hread] at read
        cases read
        exact ⟨.inl rfl, fun _ => rfl⟩
  | broken read first =>
      obtain hfixed | ⟨-, d, hd, hread⟩ := h
      · simp [first] at hfixed
      · simp [hd, hread] at read

theorem Offers.answerAll (h : n.Offers s) (calls : List Call) : (n.answerAll calls).2.Offers s := by
  induction calls generalizing n with
  | nil => exact h
  | cons call calls ih => exact ih (h.step (n.step_answer call)).1

theorem Offers.answer_ask (h : n.Offers s) : (n.answer .ask).1 = .inForce s :=
  (h.step (n.step_answer .ask)).2 rfl

/-- Whenever they are asked for, the settings on offer are answered. -/
theorem Offers.getElem?_answerAll (h : n.Offers s) (hi : calls[i]? = some .ask) :
    (n.answerAll calls).1[i]? = some (.inForce s) := by
  rw [Session.getElem?_answerAll, hi, Option.map_some, (h.answerAll (calls.take i)).answer_ask]

/-! ### The document taken -/

/-- A document that is taken can be read, and is kept. -/
theorem Step.of_taken (hstep : n.Step (.give document) .taken m) :
    (∃ s, parse document = .ok s) ∧ m.given = some document := by
  cases hstep with
  | taken read first => exact ⟨⟨_, read⟩, rfl⟩

theorem parse_of_taken (hi : calls[i]? = some (.give document))
    (ha : (n.answerAll calls).1[i]? = some .taken) : ∃ s, parse document = .ok s := by
  rw [getElem?_answerAll, hi, Option.map_some, Option.some.injEq] at ha
  have hstep := step_answer (n.answerAll (calls.take i)).2 (.give document)
  rw [ha] at hstep
  exact hstep.of_taken.1

theorem Step.given_ne_none (hstep : n.Step call a m) (h : a = .taken ∨ n.given ≠ none) :
    m.given ≠ none := by
  cases hstep with
  | taken => simp
  | late | faulty | fixed | fixes | broken => exact h.resolve_left nofun

theorem Step.ne_taken (hstep : n.Step call a m) (h : n.given ≠ none) : a ≠ .taken := by
  cases hstep with
  | taken read first => exact absurd first h
  | late | faulty | fixed | fixes | broken => nofun

/-- Once a document has been taken no other is. -/
theorem notMem_taken (h : n.given ≠ none) (calls : List Call) :
    .taken ∉ (n.answerAll calls).1 := by
  induction calls generalizing n with
  | nil => nofun
  | cons call calls ih =>
      have hstep := n.step_answer call
      rw [answerAll_cons, List.mem_cons]
      exact fun hmem => hmem.elim (hstep.ne_taken h ·.symm) (ih (hstep.given_ne_none (.inr h)))

/-- At most one document is taken. -/
theorem taken_once (hi : (n.answerAll calls).1[i]? = some .taken)
    (hj : (n.answerAll calls).1[j]? = some .taken) : i = j := by
  induction calls generalizing n i j with
  | nil => simp [Session.answerAll] at hi
  | cons call calls ih =>
      have hstep := n.step_answer call
      -- behind a document that is taken there is no other
      have hlater : ∀ k, (n.answer call).1 = .taken →
          ((n.answer call).2.answerAll calls).1[k]? ≠ some Answer.taken := fun k htaken hk =>
        notMem_taken (hstep.given_ne_none (.inl htaken)) calls (List.mem_of_getElem? hk)
      rw [answerAll_cons] at hi hj
      cases i with
      | zero =>
          cases j with
          | zero => rfl
          | succ j => exact absurd hj (hlater j (Option.some.inj hi))
      | succ i =>
          cases j with
          | zero => exact absurd hi (hlater i (Option.some.inj hj))
          | succ j => exact congrArg Nat.succ (ih hi hj)

/-! ### Calls that are refused -/

theorem Step.eq_of_refused (hstep : n.Step call (.refused fault) m) : m = n := by
  cases hstep with
  | late | faulty => rfl

/-- A call that is refused could as well not have been made. -/
theorem answerAll_eraseIdx (hi : (n.answerAll calls).1[i]? = some (.refused fault)) :
    n.answerAll (calls.eraseIdx i) =
      ((n.answerAll calls).1.eraseIdx i, (n.answerAll calls).2) := by
  induction calls generalizing n i with
  | nil => simp [Session.answerAll] at hi
  | cons call calls ih =>
      rw [answerAll_cons] at hi ⊢
      cases i with
      | zero =>
          have hstep := n.step_answer call
          rw [Option.some.inj hi] at hstep
          rw [hstep.eq_of_refused]
          rfl
      | succ i =>
          rw [List.eraseIdx_cons_succ, answerAll_cons, ih hi]
          rfl

/-! ### The settings in force -/

/-- What settings the answers to some calls have to be about: those of a document that is taken
before they are first asked for, and the standard ones if there is no such document. -/
structure Settles (calls : List Call) (answers : List Answer) (s : Settings) : Prop where
  asked : ∀ i : Nat, calls[i]? = some .ask → answers[i]? = some (.inForce s)
  given : ∀ (i : Nat) (document : List Char), calls[i]? = some (.give document) →
    answers[i]? = some .taken → .ask ∉ calls.take i → parse document = .ok s
  otherwise : (∀ i : Nat, answers[i]? = some .taken → .ask ∈ calls.take i) →
    parse standardText.toList = .ok s

theorem Settles.refused (h : Settles calls answers s) (document : List Char) (fault : Fault) :
    Settles (.give document :: calls) (.refused fault :: answers) s where
  asked
    | i + 1, hi => h.asked i hi
  given
    | i + 1, d, hi, ha, hno => h.given i d hi ha fun hmem => hno (List.mem_cons_of_mem _ hmem)
  otherwise hlate := h.otherwise fun i hi => by simpa using hlate (i + 1) hi

theorem Settles.taken (read : parse document = .ok s)
    (asked : ∀ i : Nat, calls[i]? = some .ask → answers[i]? = some (.inForce s))
    (last : .taken ∉ answers) : Settles (.give document :: calls) (.taken :: answers) s where
  asked
    | i + 1, hi => asked i hi
  given
    | 0, d, hi, _, _ => by cases hi; exact read
    | i + 1, d, _, ha, _ => absurd (List.mem_of_getElem? (i := i) ha) last
  otherwise hlate := absurd (hlate 0 rfl) List.not_mem_nil

theorem Settles.asked_first (read : parse standardText.toList = .ok s)
    (asked : ∀ i : Nat, calls[i]? = some .ask → answers[i]? = some (.inForce s)) :
    Settles (.ask :: calls) (.inForce s :: answers) s where
  asked
    | 0, _ => rfl
    | i + 1, hi => asked i hi
  given
    | _ + 1, _, _, _, hno => absurd List.mem_cons_self hno
  otherwise _ := read

theorem parse_fresh [ReadsStandard] : parse (fresh.given.getD standardText.toList) = .ok standard := by
  rw [fresh, Option.getD_none, ReadsStandard.standard]

/-- A fresh session settles on some settings. -/
theorem exists_settles [ReadsStandard] (calls : List Call) : ∃ s, Settles calls (fresh.answerAll calls).1 s := by
  induction calls with
  | nil => exact ⟨standard, nofun, nofun, fun _ => ReadsStandard.standard⟩
  | cons call calls ih =>
      have hstep := fresh.step_answer call
      rw [answerAll_cons]
      generalize fresh.answer call = r at hstep ⊢
      obtain ⟨a, m⟩ := r
      cases hstep with
      | @taken document s read first =>
          have offers : Offers { fresh with given := some document } s :=
            offers_of_given read rfl rfl
          exact ⟨_, .taken read (fun i => offers.getElem?_answerAll) (notMem_taken (by simp) calls)⟩
      | late read given => exact absurd rfl given
      | faulty read => exact ih.imp fun s h => h.refused _ _
      | fixed fixed => cases fixed
      | @fixes s read first =>
          have offers : Offers { fresh with fixed := some s } s := .inl rfl
          obtain rfl : standard = s := Except.ok.inj (parse_fresh.symm.trans read)
          exact ⟨_, .asked_first ReadsStandard.standard fun i => offers.getElem?_answerAll⟩
      | broken read first =>
          rw [parse_fresh] at read
          cases read

/-! ### Sessions -/

/-- **Settings in force.**  Whatever is asked of a fresh session, there are settings that it answers
whenever it is asked for them, so that it is never broken: those of the document that was taken
before they were first asked for, and otherwise those of the standard document.  At most one
document is taken, and a document that is refused changes the answer to no other call. -/
theorem settings_settled_once [ReadsStandard] (calls : List Call) :
    (∃ s, Settles calls (fresh.answerAll calls).1 s) ∧
      (∀ i j : Nat, (fresh.answerAll calls).1[i]? = some .taken →
        (fresh.answerAll calls).1[j]? = some .taken → i = j) ∧
      ∀ (i : Nat) (fault : Fault), (fresh.answerAll calls).1[i]? = some (.refused fault) →
        fresh.answerAll (calls.eraseIdx i) =
          ((fresh.answerAll calls).1.eraseIdx i, (fresh.answerAll calls).2) :=
  ⟨exists_settles calls, fun _ _ => taken_once, fun _ _ => answerAll_eraseIdx⟩

/-- **Documents without effect.**  When a document is taken, the settings that are answered are its
own exactly if they had not been asked for before it was given, or it is a document of the standard
settings. -/
theorem in_force_iff_given_first [ReadsStandard] (hi : calls[i]? = some (.give document))
    (ha : (fresh.answerAll calls).1[i]? = some .taken) (hj : calls[j]? = some .ask) :
    ∃ s, parse document = .ok s ∧ ((fresh.answerAll calls).1[j]? = some (.inForce s) ↔
      .ask ∉ calls.take i ∨ s = standard) := by
  obtain ⟨s, hs⟩ := parse_of_taken hi ha
  obtain ⟨settled, h⟩ := exists_settles calls
  refine ⟨s, hs, ?_⟩
  rw [h.asked j hj]
  by_cases hask : .ask ∈ calls.take i
  · -- no other document is taken, and so the standard settings are in force
    have hread := h.otherwise fun k hk => taken_once hk ha ▸ hask
    obtain rfl : standard = settled := Except.ok.inj (ReadsStandard.standard.symm.trans hread)
    simp [hask, eq_comm]
  · obtain rfl : settled = s := Except.ok.inj ((h.given i document hi ha hask).symm.trans hs)
    simp [hask]

end Decoder

/-- A document of other settings than the standard ones. -/
def otherText : List Char :=
  "[score]\nhit = 1\nmiss = 2\n\n[level]\nkana_per_ms_scale = 3.5\nmax = 4\n".toList

def other : Settings where
  score := { hit := 1, miss := 2 }
  level := { scale := 3.5, cap := 4 }

theorem parse_otherText : parse otherText = .ok other :=
  eq_ok_of_toOption (by decide +kernel)

/-- A document that comes after another could as well not have been given. -/
theorem settings_settled_once_sample :
    let calls := [.ask, .give otherText, .give otherText, .ask]
    (∃ s, Settles calls (fresh.answerAll calls).1 s) ∧
      fresh.answerAll [.ask, .give otherText, .ask] =
        ((fresh.answerAll calls).1.eraseIdx 2, (fresh.answerAll calls).2) := by
  intro calls
  obtain ⟨settles, -, refused⟩ := settings_settled_once calls
  have hlate : (fresh.answerAll calls).1[2]? = some (.refused .alreadyGiven) := by
    rw [answerAll_cons, answer_ask parse_fresh rfl, answerAll_cons,
      answer_give parse_otherText rfl, answerAll_cons, answer_give_again parse_otherText (by simp)]
    rfl
  exact ⟨settles, refused 2 _ hlate⟩

/-- Asked for the settings, a fresh session fixes the standard ones; it then takes another document,
and goes on answering the standard settings. -/
theorem answerAll_ask_give_ask :
    (fresh.answerAll [.ask, .give otherText, .ask]).1 =
      [.inForce standard, .taken, .inForce standard] := by
  rw [answerAll_cons, answer_ask parse_fresh rfl, answerAll_cons, answer_give parse_otherText rfl]
  rfl

/-- Given between two askings a document is taken, and is not in force at the second. -/
theorem in_force_iff_given_first_sample :
    let calls := [.ask, .give otherText, .ask]
    calls[1]? = some (.give otherText) ∧ (fresh.answerAll calls).1[1]? = some .taken ∧
      calls[2]? = some .ask ∧
      ∃ s, parse otherText = .ok s ∧ (fresh.answerAll calls).1[2]? ≠ some (.inForce s) := by
  intro calls
  have hi : calls[1]? = some (.give otherText) := rfl
  have ha : (fresh.answerAll calls).1[1]? = some .taken := by rw [answerAll_ask_give_ask]; rfl
  have hj : calls[2]? = some .ask := rfl
  obtain ⟨s, hs, hinForce⟩ := in_force_iff_given_first hi ha hj
  obtain rfl : other = s := Except.ok.inj (parse_otherText.symm.trans hs)
  -- the settings were asked for before, and are not the standard ones
  have hother : ¬ (.ask ∉ calls.take 1 ∨ other = standard) := by decide +kernel
  exact ⟨hi, ha, hj, other, hs, fun h => hother (hinForce.mp h)⟩

/-- Not every document that is taken is in force when its settings are asked for later. -/
theorem exists_taken_not_in_force :
    ¬ ∀ (calls : List Call) (i j : Nat) (document : List Char), i < j →
      calls[i]? = some (.give document) → (fresh.answerAll calls).1[i]? = some .taken →
      calls[j]? = some .ask →
      ∃ s, parse document = .ok s ∧ (fresh.answerAll calls).1[j]? = some (.inForce s) := by
  intro h
  obtain ⟨s, hs, hj⟩ := h [.ask, .give otherText, .ask] 1 2 otherText (by decide) rfl
    (by rw [answerAll_ask_give_ask]; rfl) rfl
  obtain rfl : other = s := Except.ok.inj (parse_otherText.symm.trans hs)
  rw [answerAll_ask_give_ask] at hj
  exact absurd hj (by decide +kernel)

/-! ### Requests -/

theorem settingsInForce_of_answer (h : (n.answer .ask).1 = .inForce s) :
    Request.settingsInForce n = .ok s := by
  rw [answer] at h
  rw [Request.settingsInForce]
  cases hask : n.ask with
  | error fault => simp [hask] at h
  | ok r => simpa [hask] using h

/-- A request that names no settings runs under the standard ones. -/
theorem settingsInForce_fresh : Request.settingsInForce fresh = .ok standard :=
  settingsInForce_of_answer (congrArg Prod.fst (answer_ask parse_fresh rfl))

/-- A request that names settings runs under these. -/
theorem settingsInForce_of_give (h : fresh.give document = .ok n) :
    ∃ s, parse document = .ok s ∧ Request.settingsInForce n = .ok s := by
  have hstep := fresh.step_answer (.give document)
  rw [answer, h] at hstep
  cases hstep with
  | taken read first =>
      exact ⟨_, read, settingsInForce_of_answer (offers_of_given read rfl rfl).answer_ask⟩

end Session

end KanaTyping.Settings
