import BulkSql.Proofs.Syntax.Replies

/-! # Progress

A reader that succeeds leaves a suffix of its text, and most readers take something of it. A reader that is built from
another one calls it at suffixes of its own text, and behind a parenthesis at shorter ones only. Both go through all
combinators. A repetition whose part always takes something never stands still, and a reader that calls itself on
shorter texts only needs nothing that stops it: without their guards the loop and the recursion still have one meaning
each, and that is the same.
-/

namespace BulkSql

namespace Reader

variable {α β γ : Type}

/-! ## Taking from a text -/

/-- Wherever the reader succeeds, it leaves a suffix that is shorter by a number of characters at least. -/
def Takes (least : Nat) (reader : Reader α) : Prop :=
  ∀ text value rest, reader text = .done value rest → rest <:+ text ∧ rest.length + least ≤ text.length

namespace Takes

variable {least more : Nat} {reader : Reader α}

theorem mono (takes : Takes more reader) (le : least ≤ more) : Takes least reader := by
  intro text value rest done
  obtain ⟨suffix, shorter⟩ := takes text value rest done
  exact ⟨suffix, by omega⟩

theorem of_suffix (suffix : ∀ text value rest, reader text = .done value rest → rest <:+ text) : Takes 0 reader :=
  fun text value rest done => ⟨suffix text value rest done, (suffix text value rest done).length_le⟩

theorem pure (value : α) : Takes 0 (Pure.pure value : Reader α) := by
  apply of_suffix
  intro text _ rest done
  cases done
  exact List.suffix_rfl

theorem bind {next : α → Reader β} (first : Takes least reader) (other : ∀ value, Takes more (next value)) :
    Takes (least + more) (reader >>= next) := by
  intro text value rest done
  obtain ⟨between, mid, read, done⟩ := bind_eq_done_iff.mp done
  obtain ⟨suffix, shorter⟩ := first text between mid read
  obtain ⟨suffix', shorter'⟩ := other between mid value rest done
  exact ⟨suffix'.trans suffix, by omega⟩

theorem firstOf {readers : List (Reader α)} (each : ∀ reader ∈ readers, Takes least reader) :
    Takes least (Reader.firstOf readers) := by
  intro text value rest done
  obtain ⟨reader, member, read⟩ := exists_of_firstOf done
  exact each reader member text value rest read

theorem optional (takes : Takes least reader) : Takes 0 (Reader.optional reader) := by
  intro text value? rest done
  rcases optional_eq_done_iff.mp done with ⟨value, read, -⟩ | ⟨-, -, rfl⟩
  · exact takes.mono (Nat.zero_le _) text value rest read
  · exact ⟨List.suffix_rfl, Nat.le_refl _⟩

theorem commit (takes : Takes least reader) : Takes least (Reader.commit reader) :=
  fun text value rest done => takes text value rest (done_of_commit done)

theorem furtherOperand {operator : Reader β} (first : Takes more operator) (operand : Takes least reader) :
    Takes (more + least) (furtherOperand operator reader) :=
  first.bind fun _ => operand.bind fun _ => pure _

theorem furtherItem {separator : Reader β} (first : Takes more separator) (item : Takes least reader) :
    Takes (more + least) (furtherItem separator reader) := first.bind fun _ => item.commit

theorem located (takes : Takes least reader) : Takes least (Reader.located reader) :=
  fun text pair rest done => takes text pair.2 rest (located_eq_done_iff.mp done).2

theorem consumed (takes : Takes least reader) : Takes least (Reader.consumed reader) :=
  fun text pair rest done => takes text pair.2 rest (consumed_eq_done_iff.mp done).2

theorem named (what : Text) (takes : Takes least reader) : Takes least (Reader.named what reader) :=
  fun text value rest done => takes text value rest (named_eq_done_iff.mp done)

theorem guarded (takes : Takes least reader) (text : Text) : Takes least (Reader.guarded reader text) :=
  fun start value rest done => takes start value rest (done_of_guarded done).2

theorem endOfInput : Takes 0 endOfInput := by
  apply of_suffix
  intro text _ rest done
  unfold Reader.endOfInput at done
  split at done
  · cases done
    exact List.suffix_rfl
  · cases done

/-- However often something is taken, a suffix is left. -/
theorem many (takes : Takes least reader) : Takes 0 (Reader.many reader) := by
  intro text values rest done
  induction size : text.length using Nat.strongRecOn generalizing text values with
  | ind size ih =>
    rw [Reader.many] at done
    cases read : reader text with
    | done value mid =>
      obtain ⟨suffix, shorter⟩ := takes text value mid read
      rw [read] at done
      dsimp only at done
      split at done
      · next less =>
        cases again : Reader.many reader mid with
        | done others behind =>
          rw [again] at done
          cases done
          obtain ⟨suffix', shorter'⟩ := ih mid.length (size ▸ less) mid others again rfl
          exact ⟨suffix'.trans suffix, by omega⟩
        | fail why => rw [again] at done; cases done
        | halt why => rw [again] at done; cases done
      · cases done
    | fail why =>
      rw [read] at done
      cases done
      exact ⟨List.suffix_rfl, by omega⟩
    | halt why => rw [read] at done; cases done

end Takes

/-! ## Calls -/

/-- Two readers agree at the suffixes of a text that are shorter by a number of characters at least. -/
def AgreesBehind (apart : Nat) (text : Text) (inner other : Reader β) : Prop :=
  ∀ start, start <:+ text → start.length + apart ≤ text.length → other start = inner start

theorem AgreesBehind.of_suffix {apart near : Nat} {text mid : Text} {inner other : Reader β}
    (agrees : AgreesBehind apart text inner other) (suffix : mid <:+ text)
    (le : mid.length + apart ≤ text.length + near) : AgreesBehind near mid inner other :=
  fun start inside shorter => agrees start (inside.trans suffix) (by omega)

/-- A reader that is built from another one. It takes a number of characters at least if that one leaves suffixes, and
calls it at suffixes only that are shorter by another number. A call elsewhere would show, since the reply to it could
be any. -/
structure Advances (apart least : Nat) (build : Reader β → Reader α) : Prop where
  takes : ∀ {inner}, Takes 0 inner → Takes least (build inner)
  calls : ∀ {inner}, Takes 0 inner → ∀ {text other}, AgreesBehind apart text inner other →
    build other text = build inner text

namespace Advances

variable {apart near least more : Nat} {build : Reader β → Reader α}

theorem mono (advances : Advances apart more build) (leApart : near ≤ apart) (le : least ≤ more) :
    Advances near least build where
  takes leaves := (advances.takes leaves).mono le
  calls leaves _ _ agrees := advances.calls leaves (agrees.of_suffix List.suffix_rfl (by omega))

/-- A reader that calls nothing. -/
theorem const {reader : Reader α} (takes : Takes least reader) : Advances apart least fun _ : Reader β => reader where
  takes _ := takes
  calls _ _ _ _ := rfl

/-- The call itself. -/
theorem call : Advances 0 0 fun inner : Reader β => inner where
  takes leaves := leaves
  calls _ text _ agrees := agrees text List.suffix_rfl (Nat.le_refl _)

/-- What is read behind a first part may call nearer, by as much as that part takes. -/
theorem bind_near {next : α → Reader β → Reader γ} (first : Advances apart least build)
    (other : ∀ value, Advances near more (next value)) (le : apart ≤ near + least) :
    Advances apart (least + more) fun inner => build inner >>= fun value => next value inner where
  takes leaves := (first.takes leaves).bind fun value => (other value).takes leaves
  calls := by
    intro inner leaves text other' agrees
    change andThen _ _ text = andThen _ _ text
    unfold andThen
    rw [first.calls leaves agrees]
    cases read : build inner text with
    | done value mid =>
      obtain ⟨suffix, shorter⟩ := first.takes leaves _ _ _ read
      exact (other value).calls leaves (agrees.of_suffix suffix (by omega))
    | fail why => rfl
    | halt why => rfl

theorem bind {next : α → Reader β → Reader γ} (first : Advances apart least build)
    (other : ∀ value, Advances apart more (next value)) :
    Advances apart (least + more) fun inner => build inner >>= fun value => next value inner :=
  first.bind_near other (Nat.le_add_right ..)

theorem firstOf_nil : Advances apart least fun _ : Reader β => firstOf ([] : List (Reader α)) :=
  const (.firstOf (List.forall_mem_nil _))

theorem firstOf_cons {builds : Reader β → List (Reader α)} (first : Advances apart least build)
    (others : Advances apart least fun inner => firstOf (builds inner)) :
    Advances apart least fun inner => firstOf (build inner :: builds inner) where
  takes := by
    intro inner leaves text value rest done
    rcases done_of_firstOf_cons done with read | read
    · exact first.takes leaves text value rest read
    · exact others.takes leaves text value rest read
  calls := by
    intro inner leaves text other agrees
    have rest : firstOf (builds other) text = firstOf (builds inner) text := others.calls leaves agrees
    rw [firstOf, firstOf, orElse, orElse, first.calls leaves agrees, rest]

theorem optional (advances : Advances apart least build) : Advances apart 0 fun inner => optional (build inner) where
  takes leaves := (advances.takes leaves).optional
  calls := by
    intro inner leaves text other agrees
    rw [Reader.optional, Reader.optional, advances.calls leaves agrees]

theorem commit (advances : Advances apart least build) : Advances apart least fun inner => commit (build inner) where
  takes leaves := (advances.takes leaves).commit
  calls := by
    intro inner leaves text other agrees
    rw [Reader.commit, Reader.commit, advances.calls leaves agrees]

theorem many (advances : Advances apart least build) : Advances apart 0 fun inner => many (build inner) where
  takes leaves := (advances.takes leaves).many
  calls := by
    intro inner leaves text other agrees
    induction size : text.length using Nat.strongRecOn generalizing text with
    | ind size ih =>
      rw [Reader.many, Reader.many, advances.calls leaves agrees]
      cases read : build inner text with
      | done value mid =>
        obtain ⟨suffix, shorter⟩ := advances.takes leaves _ _ _ read
        dsimp only
        split
        · next less => rw [ih mid.length (size ▸ less) (agrees.of_suffix suffix (by omega)) rfl]
        · rfl
      | fail why => rfl
      | halt why => rfl

/-! ### Repetitions of the grammar -/

section Repetitions

variable {mark : Reader γ}

theorem chainLeft {fold : γ → α → α → α} (operand : Advances apart least build) (operator : Takes more mark) :
    Advances apart least fun inner => chainLeft mark (build inner) fold := by
  have further : Advances apart (more + least) fun inner => furtherOperand mark (build inner) :=
    (const operator).bind fun _ => operand.bind fun _ => const (.pure _)
  exact operand.bind fun _ => further.many.bind fun _ => const (.pure _)

theorem signsBefore {fold : γ → α → α} (operand : Advances apart least build) (sign : Takes more mark) :
    Advances apart least fun inner => signsBefore mark (build inner) fold := by
  have rest (signs : List γ) : Advances apart least fun inner => (do
      let value ← build inner
      Pure.pure (signs.foldr fold value) : Reader α) :=
    operand.bind fun _ => const (.pure _)
  exact ((const sign).many.bind rest).mono (Nat.le_refl _) (Nat.le_add_left ..)

theorem marksAfter {fold : α → γ → α} (operand : Advances apart least build) (takes : Takes more mark) :
    Advances apart least fun inner => marksAfter (build inner) mark fold :=
  operand.bind fun _ => (const takes).many.bind fun _ => const (.pure _)

theorem separated (item : Advances apart least build) (separator : Takes more mark) :
    Advances apart least fun inner => separated mark (build inner) := by
  have further : Advances apart (more + least) fun inner => furtherItem mark (build inner) :=
    (const separator).bind fun _ => item.commit
  exact item.bind fun _ => further.many.bind fun _ => const (.pure _)

end Repetitions

end Advances

/-! ## Repetition without a guard -/

/-- Two functions that are built from themselves in one way are the same, if that way asks for shorter texts only. -/
theorem eq_of_shorter {build : (Text → γ) → Text → γ} {first second : Text → γ} (built : first = build first)
    (built' : second = build second)
    (shorter : ∀ text : Text, (∀ start : Text, start.length < text.length → first start = second start) →
      build first text = build second text) : first = second := by
  funext text
  induction size : text.length using Nat.strongRecOn generalizing text with
  | ind size ih =>
    calc first text = build first text := congrFun built text
      _ = build second text := shorter text fun start less => ih start.length (size ▸ less) start rfl
      _ = second text := (congrFun built' text).symm

/-- One round of a repetition: a part and the rounds behind it, however short the text is that the part leaves. -/
def round (part : Reader α) (again : Reader (List α)) : Reader (List α) := fun text =>
  match part text with
  | .done value rest => (do let values ← again; pure (value :: values) : Reader (List α)) rest
  | .fail _ => .done [] text
  | .halt why => .halt why

/-- A repetition whose part takes something always goes on. -/
theorem many_apply {part : Reader α} (takes : Takes 1 part) (text : Text) :
    many part text = round part (many part) text := by
  unfold round
  rw [many]
  cases read : part text with
  | done value rest =>
    obtain ⟨-, shorter⟩ := takes text value rest read
    dsimp only
    rw [if_pos (by omega)]
    change _ = andThen _ _ rest
    unfold andThen
    cases many part rest <;> rfl
  | fail why => rfl
  | halt why => rfl

/-- Rounds without end are that repetition. -/
theorem eq_round_iff {part : Reader α} (takes : Takes 1 part) (loop : Reader (List α)) :
    loop = round part loop ↔ loop = many part := by
  have again : many part = round part (many part) := funext (many_apply takes)
  refine ⟨fun rounds => eq_of_shorter rounds again fun text same => ?_, fun same => same ▸ again⟩
  unfold round
  cases read : part text with
  | done value rest =>
    obtain ⟨-, shorter⟩ := takes text value rest read
    change andThen _ _ rest = andThen _ _ rest
    unfold andThen
    rw [same rest (by omega)]
  | fail why => rfl
  | halt why => rfl

/-! ## Recursion without a guard -/

/-- What a reader makes of a text depends on calls at shorter suffixes of it only. -/
def CallsShorter (body : Reader α → Reader α) : Prop :=
  ∀ inner, Takes 0 inner → ∀ text other, AgreesBehind 1 text inner other → body other text = body inner text

namespace Advances

variable {least : Nat} {body : Reader α → Reader α}

theorem callsShorter (advances : Advances 1 least body) : CallsShorter body :=
  fun _ leaves _ _ agrees => advances.calls leaves agrees

theorem recursive (advances : Advances 1 least body) : Takes least (Reader.recursive body) := by
  intro text value rest done
  induction size : text.length using Nat.strongRecOn generalizing text value rest with
  | ind size ih =>
    rw [recursive_apply] at done
    refine size ▸ advances.takes (fun start value rest called => ?_) text value rest done
    obtain ⟨shorter, read⟩ := done_of_guarded called
    have taken := ih start.length (size ▸ shorter) start value rest read rfl
    exact ⟨taken.1, by omega⟩

/-- A reader that calls itself on shorter texts only is not stopped by its guard. -/
theorem recursive_apply (advances : Advances 1 least body) (text : Text) :
    Reader.recursive body text = body (Reader.recursive body) text := by
  rw [Reader.recursive_apply]
  refine advances.calls (advances.recursive.mono (Nat.zero_le _)) fun start _ shorter => ?_
  exact guarded_of_lt _ (by omega)

/-- Calls without end are that recursion. -/
theorem eq_body_iff (advances : Advances 1 least body) (reader : Reader α) :
    reader = body reader ↔ reader = Reader.recursive body := by
  have again : Reader.recursive body = body (Reader.recursive body) := funext advances.recursive_apply
  refine ⟨fun calls => eq_of_shorter calls again fun text same => ?_, fun same => same ▸ again⟩
  have leaves := advances.recursive.mono (Nat.zero_le _)
  exact advances.calls leaves fun start _ shorter => same start (by omega)

end Advances

end Reader

end BulkSql
