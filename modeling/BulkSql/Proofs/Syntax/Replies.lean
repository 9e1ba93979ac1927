import BulkSql.Syntax.Reader

/-! # Replies of combined readers

What a combination of readers replies, from what its parts reply. All repetition of the grammar is one loop, which
extends what was read before by one mark after the other; a step of the loop, its end and its invariant are enough
for chains of operators, casts, tests and lists.
-/

namespace BulkSql

namespace Reader

variable {α β γ : Type}

/-- The reader gives up here, and another branch may be tried. -/
def Fails (reader : Reader α) (text : Text) : Prop := ∃ why, reader text = .fail why

theorem Fails.not_done {reader : Reader α} {text rest : Text} {value : α} (fails : Fails reader text) :
    reader text ≠ .done value rest := by
  obtain ⟨why, failed⟩ := fails
  rw [failed]
  simp

/-! ## Sequences -/

theorem bind_of_done {first : Reader α} {text mid : Text} {value : α} (done : first text = .done value mid)
    (next : α → Reader β) : (first >>= next) text = next value mid := by
  change first.andThen next text = _
  rw [andThen, done]

theorem Fails.bind {first : Reader α} {text : Text} (fails : Fails first text) (next : α → Reader β) :
    Fails (first >>= next) text := by
  obtain ⟨why, failed⟩ := fails
  refine ⟨why, ?_⟩
  change first.andThen next text = _
  rw [andThen, failed]

theorem bind_eq_done_iff {first : Reader α} {next : α → Reader β} {text rest : Text} {value : β} :
    (first >>= next) text = .done value rest ↔
      ∃ between mid, first text = .done between mid ∧ next between mid = .done value rest := by
  change first.andThen next text = _ ↔ _
  rw [andThen]
  cases first text with
  | done between mid =>
    constructor
    · exact fun done => ⟨between, mid, rfl, done⟩
    · rintro ⟨_, _, same, done⟩
      cases same
      exact done
  | fail why => simp
  | halt why => simp

theorem fails_bind_of_done {first : Reader α} {text mid : Text} {value : α} (done : first text = .done value mid)
    {next : α → Reader β} (fails : Fails (next value) mid) : Fails (first >>= next) text := by
  obtain ⟨why, failed⟩ := fails
  exact ⟨why, (bind_of_done done next).trans failed⟩

/-! ## Branches -/

theorem firstOf_of_done {reader : Reader α} {readers : List (Reader α)} {text rest : Text} {value : α}
    (done : reader text = .done value rest) : firstOf (reader :: readers) text = .done value rest := by
  rw [firstOf, orElse, done]

theorem firstOf_of_fails {reader : Reader α} {readers : List (Reader α)} {text rest : Text} {value : α}
    (fails : Fails reader text) (done : firstOf readers text = .done value rest) :
    firstOf (reader :: readers) text = .done value rest := by
  obtain ⟨why, failed⟩ := fails
  rw [firstOf, orElse, failed]
  dsimp only
  rw [done]

theorem done_of_firstOf_cons {reader : Reader α} {readers : List (Reader α)} {text rest : Text} {value : α}
    (done : firstOf (reader :: readers) text = .done value rest) :
    reader text = .done value rest ∨ firstOf readers text = .done value rest := by
  rw [firstOf, orElse] at done
  cases first : reader text with
  | done other mid =>
    rw [first] at done
    exact .inl done
  | fail why =>
    rw [first] at done
    dsimp only at done
    cases second : firstOf readers text with
    | done other mid => rw [second] at done; exact .inr done
    | fail why' => rw [second] at done; cases done
    | halt why' => rw [second] at done; cases done
  | halt why => rw [first] at done; cases done

theorem exists_of_firstOf {readers : List (Reader α)} {text rest : Text} {value : α}
    (done : firstOf readers text = .done value rest) : ∃ reader ∈ readers, reader text = .done value rest := by
  induction readers with
  | nil => cases done
  | cons reader readers ih =>
    rcases done_of_firstOf_cons done with read | later
    · exact ⟨reader, List.mem_cons_self .., read⟩
    · obtain ⟨found, member, read⟩ := ih later
      exact ⟨found, List.mem_cons_of_mem _ member, read⟩

theorem done_of_firstOf_pair {first second : Reader α} {text rest : Text} {value : α}
    (done : firstOf [first, second] text = .done value rest) :
    first text = .done value rest ∨ second text = .done value rest := by
  rcases done_of_firstOf_cons done with read | later
  · exact .inl read
  · rcases done_of_firstOf_cons later with read | none_
    · exact .inr read
    · cases none_

theorem fails_firstOf {readers : List (Reader α)} {text : Text} (fails : ∀ reader ∈ readers, Fails reader text) :
    Fails (firstOf readers) text := by
  induction readers with
  | nil => exact ⟨_, rfl⟩
  | cons reader readers ih =>
    obtain ⟨why, failed⟩ := fails reader (List.mem_cons_self ..)
    obtain ⟨why', failed'⟩ := ih fun other member => fails other (List.mem_cons_of_mem _ member)
    exact ⟨_, by rw [firstOf, orElse, failed]; dsimp only; rw [failed']⟩

/-! ## Optional parts and commitments -/

theorem optional_of_done {reader : Reader α} {text rest : Text} {value : α} (done : reader text = .done value rest) :
    optional reader text = .done (some value) rest := by
  rw [optional, done]

theorem optional_of_fails {reader : Reader α} {text : Text} (fails : Fails reader text) :
    optional reader text = .done none text := by
  obtain ⟨why, failed⟩ := fails
  rw [optional, failed]

theorem optional_eq_done_iff {reader : Reader α} {text rest : Text} {value? : Option α} :
    optional reader text = .done value? rest ↔
      (∃ value, reader text = .done value rest ∧ value? = some value) ∨
        Fails reader text ∧ value? = none ∧ rest = text := by
  unfold optional Fails
  cases reader text with
  | done value mid =>
    simp only [Reply.done.injEq, reduceCtorEq, exists_false, false_and, or_false]
    constructor
    · rintro ⟨rfl, rfl⟩
      exact ⟨value, ⟨rfl, rfl⟩, rfl⟩
    · rintro ⟨other, ⟨rfl, rfl⟩, rfl⟩
      exact ⟨rfl, rfl⟩
  | fail why => simp [eq_comm]
  | halt why => simp

theorem commit_of_done {reader : Reader α} {text rest : Text} {value : α} (done : reader text = .done value rest) :
    commit reader text = .done value rest := by
  rw [commit, done]

theorem done_of_commit {reader : Reader α} {text rest : Text} {value : α}
    (done : commit reader text = .done value rest) : reader text = .done value rest := by
  unfold commit at done
  cases read : reader text with
  | done other mid => rw [read] at done; exact done
  | fail why => rw [read] at done; cases done
  | halt why => rw [read] at done; cases done

/-! ## Places -/

theorem located_eq_done_iff {reader : Reader α} {text place rest : Text} {value : α} :
    located reader text = .done (place, value) rest ↔ place = text ∧ reader text = .done value rest := by
  unfold located
  cases reader text <;> simp [eq_comm, and_assoc]

theorem consumed_eq_done_iff {reader : Reader α} {text span rest : Text} {value : α} :
    consumed reader text = .done (span, value) rest ↔
      span = text.take (text.length - rest.length) ∧ reader text = .done value rest := by
  unfold consumed
  cases reader text with
  | done other mid =>
    simp only [Reply.done.injEq, Prod.mk.injEq]
    constructor
    · rintro ⟨⟨rfl, rfl⟩, rfl⟩
      exact ⟨rfl, rfl, rfl⟩
    · rintro ⟨rfl, rfl, rfl⟩
      exact ⟨⟨rfl, rfl⟩, rfl⟩
  | fail why => simp
  | halt why => simp

theorem named_eq_done_iff {what : Text} {reader : Reader α} {text rest : Text} {value : α} :
    named what reader text = .done value rest ↔ reader text = .done value rest := by
  unfold named
  cases reader text <;> simp

/-! ## Loops -/

/-- Extend a value by marks as long as there are some. -/
def extend (mark : Reader β) (build : α → β → α) (value : α) : Reader α := do
  let marks ← many mark
  pure (marks.foldl build value)

theorem marksAfter_of_done {operand : Reader α} {mark : Reader β} {build : α → β → α} {text mid : Text} {value : α}
    (done : operand text = .done value mid) : marksAfter operand mark build text = extend mark build value mid :=
  bind_of_done done _

theorem separated_eq_marksAfter (separator : Reader β) (item : Reader α) :
    separated separator item =
      marksAfter (do let first ← item; pure [first]) (furtherItem separator item)
        fun items next => items ++ [next] := by
  have gathered (items more : List α) : more.foldl (fun items next => items ++ [next]) items = items ++ more := by
    induction more generalizing items with
    | nil => simp
    | cons next more ih => simp [ih]
  funext text
  unfold separated marksAfter
  change andThen _ _ text = andThen (andThen _ _) _ text
  unfold andThen
  cases item text with
  | done first mid =>
    change andThen _ _ mid = andThen _ _ mid
    unfold andThen
    cases many _ mid with
    | done more rest => simp [pure, succeed, gathered]
    | fail why => rfl
    | halt why => rfl
  | fail why => rfl
  | halt why => rfl

/-- One mark more. -/
theorem extend_of_done {mark : Reader β} {text mid : Text} {added : β} (done : mark text = .done added mid)
    (shorter : mid.length < text.length) (build : α → β → α) (value : α) :
    extend mark build value text = extend mark build (build value added) mid := by
  unfold extend
  change andThen _ _ text = andThen _ _ mid
  unfold andThen
  rw [many, done]
  dsimp only
  rw [if_pos shorter]
  cases many mark mid <;> rfl

/-- No mark more. -/
theorem extend_of_fails {mark : Reader β} {text : Text} (fails : Fails mark text) (build : α → β → α) (value : α) :
    extend mark build value text = .done value text := by
  obtain ⟨why, failed⟩ := fails
  refine bind_of_done (show many mark text = .done [] text from ?_) _
  rw [many, failed]

/-- What every mark preserves holds at the end. -/
theorem extend_induction (invariant : α → Text → Prop) {mark : Reader β} {build : α → β → α}
    (step : ∀ value text added mid, invariant value text → mark text = .done added mid →
      invariant (build value added) mid)
    {value : α} {text : Text} (start : invariant value text) {result : α} {rest : Text}
    (done : extend mark build value text = .done result rest) : invariant result rest := by
  induction size : text.length using Nat.strongRecOn generalizing value text with
  | ind size ih =>
    obtain ⟨marks, mid, loop, last⟩ := bind_eq_done_iff.mp done
    rw [many] at loop
    cases read : mark text with
    | done added after =>
      have next := step value text added after start read
      rw [read] at loop
      dsimp only at loop
      split at loop
      · next shorter =>
        refine ih after.length (size ▸ shorter) next ?_ rfl
        rw [← extend_of_done read shorter]
        exact done
      · cases loop
    | fail why =>
      rw [extend_of_fails ⟨why, read⟩] at done
      cases done
      exact start
    | halt why => rw [read] at loop; cases loop

theorem marksAfter_induction (invariant : α → Text → Prop) {operand : Reader α} {mark : Reader β} {build : α → β → α}
    {text rest : Text} {result : α} (first : ∀ value mid, operand text = .done value mid → invariant value mid)
    (step : ∀ value text added mid, invariant value text → mark text = .done added mid →
      invariant (build value added) mid)
    (done : marksAfter operand mark build text = .done result rest) : invariant result rest := by
  obtain ⟨value, mid, read, loop⟩ := bind_eq_done_iff.mp done
  exact extend_induction invariant step (first value mid read) loop

/-! ## Signs -/

theorem signsBefore_of_fails {operator : Reader β} {text : Text} (fails : Fails operator text) (operand : Reader α)
    (build : β → α → α) : signsBefore operator operand build text = operand text := by
  obtain ⟨why, failed⟩ := fails
  have unsigned : many operator text = .done [] text := by rw [many, failed]
  apply (bind_of_done unsigned _).trans
  change andThen _ _ text = _
  unfold andThen
  cases operand text <;> rfl

theorem signsBefore_of_done {operator : Reader β} {operand : Reader α} {build : β → α → α} {text mid rest : Text}
    {sign : β} {value : α} (signed : operator text = .done sign mid) (shorter : mid.length < text.length)
    (done : signsBefore operator operand build mid = .done value rest) :
    signsBefore operator operand build text = .done (build sign value) rest := by
  obtain ⟨signs, behind, loop, last⟩ := bind_eq_done_iff.mp done
  obtain ⟨inner, final, read, built⟩ := bind_eq_done_iff.mp last
  have more : many operator text = .done (sign :: signs) behind := by
    rw [many, signed]
    dsimp only
    rw [if_pos shorter, loop]
  refine (bind_of_done more _).trans ((bind_of_done read _).trans ?_)
  cases built
  rfl

theorem signsBefore_induction (invariant : Text → α → Prop) {operator : Reader β}
    {operand : Reader α} {build : β → α → α}
    {result : α} {rest : Text}
    (last : ∀ text value, operand text = .done value rest → invariant text value)
    (step : ∀ text sign mid value, operator text = .done sign mid → invariant mid value →
      invariant text (build sign value))
    {text : Text} (done : signsBefore operator operand build text = .done result rest) : invariant text result := by
  induction size : text.length using Nat.strongRecOn generalizing text result with
  | ind size ih =>
    obtain ⟨signs, behind, loop, read⟩ := bind_eq_done_iff.mp done
    cases signed : operator text with
    | done sign mid =>
      rw [many, signed] at loop
      dsimp only at loop
      split at loop
      · next shorter =>
        cases more : many operator mid with
        | done others after =>
          rw [more] at loop
          cases loop
          obtain ⟨inner, final, operandRead, built⟩ := bind_eq_done_iff.mp read
          cases built
          refine step text sign mid _ signed (ih mid.length (size ▸ shorter) ?_ rfl)
          exact (bind_of_done more _).trans (bind_of_done operandRead _)
        | fail why => rw [more] at loop; cases loop
        | halt why => rw [more] at loop; cases loop
      · cases loop
    | fail why =>
      rw [signsBefore_of_fails ⟨why, signed⟩] at done
      exact last text result done
    | halt why => rw [many, signed] at loop; cases loop

/-! ## Recursion -/

/-- A reader on texts shorter than the one it is called from. -/
def guarded (reader : Reader α) (text : Text) : Reader α := fun rest =>
  if rest.length < text.length then reader rest else .fail (.leaf rest .unnamed)

theorem guarded_of_lt (reader : Reader α) {text rest : Text} (shorter : rest.length < text.length) :
    guarded reader text rest = reader rest := if_pos shorter

theorem done_of_guarded {reader : Reader α} {text start rest : Text} {value : α}
    (done : guarded reader text start = .done value rest) :
    start.length < text.length ∧ reader start = .done value rest := by
  unfold guarded at done
  split at done
  · next shorter => exact ⟨shorter, done⟩
  · cases done

theorem recursive_apply (body : Reader α → Reader α) (text : Text) :
    recursive body text = body (guarded (recursive body) text) text := by
  rw [recursive]
  rfl

/-- What a body does if its calls do it is done by the reader that calls itself. -/
theorem recursive_induction (motive : Text → α → Text → Prop) {body : Reader α → Reader α}
    (step : ∀ inner : Reader α, (∀ text value rest, inner text = .done value rest → motive text value rest) →
      ∀ text value rest, body inner text = .done value rest → motive text value rest)
    {text rest : Text} {value : α} (done : recursive body text = .done value rest) : motive text value rest := by
  induction size : text.length using Nat.strongRecOn generalizing text value rest with
  | ind size ih =>
    rw [recursive_apply] at done
    refine step _ ?_ text value rest done
    intro start found behind called
    obtain ⟨shorter, read⟩ := done_of_guarded called
    exact ih start.length (size ▸ shorter) read rfl

end Reader

end BulkSql
