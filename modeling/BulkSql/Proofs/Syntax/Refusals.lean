import BulkSql.Proofs.Syntax.Furthest
import BulkSql.Proofs.Syntax.Scans

/-! # Where readers give up

A reader that starts where no layout starts leaves such a text again, further on, and gives up only at places that it
reached: where no layout starts, or right behind a point that no digit follows. It may give up for nothing but the end of
a word, which no report counts; only keywords do so, and a sequence of readers only where one of its keywords does.
-/

namespace BulkSql

namespace Reader

variable {α β γ : Type} {text rest place : Text} {why : Failure}

/-! ## Refusals -/

/-- The reader gives up, whether or not another branch may be tried. -/
def Refuses (reader : Reader α) (text : Text) (why : Failure) : Prop :=
  reader text = .fail why ∨ reader text = .halt why

theorem refuses_bind_iff {first : Reader α} {next : α → Reader β} :
    Refuses (first >>= next) text why ↔
      Refuses first text why ∨ ∃ value mid, first text = .done value mid ∧ Refuses (next value) mid why := by
  unfold Refuses
  change first.andThen next text = _ ∨ first.andThen next text = _ ↔ _
  rw [andThen]
  cases first text <;> simp

theorem refuses_bind_of_done {first : Reader α} {next : α → Reader β} {value : α} (done : first text = .done value mid) :
    Refuses (first >>= next) text why ↔ Refuses (next value) mid why := by
  unfold Refuses
  rw [bind_of_done done]

theorem refuses_named_iff {what : Text} {reader : Reader α} :
    Refuses (named what reader) text why ↔ ∃ inner, Refuses reader text inner ∧ why = .within what inner := by
  unfold Refuses named
  cases reader text <;> simp [eq_comm]

theorem bind_assoc (first : Reader α) (next : α → Reader β) (last : β → Reader γ) :
    first >>= next >>= last = first >>= fun value => next value >>= last := by
  funext text
  change (first.andThen next).andThen last text = first.andThen _ text
  unfold andThen
  cases first text <;> rfl

/-! ## Places -/

/-- A place that is reached in a text: no layout starts there, or it is behind a point. -/
def IsReached (text place : Text) : Prop := place <:+ text ∧ (skipLayout place = place ∨ '.' :: place <:+ text)

theorem IsReached.of_suffix {mid : Text} (reached : IsReached mid place) (suffix : mid <:+ text) : IsReached text place :=
  ⟨reached.1.trans suffix, reached.2.imp_right fun behindPoint => behindPoint.trans suffix⟩

theorem isReached_self (bare : skipLayout text = text) : IsReached text text := ⟨List.suffix_rfl, .inl bare⟩

/-- All places of a failure are reached. -/
def LiesIn (text : Text) (failure : Failure) : Prop := ∀ leaf ∈ failure.leaves, IsReached text leaf.1

theorem liesIn_leaf {wanted : Expectation} : LiesIn text (.leaf place wanted) ↔ IsReached text place := by
  simp [LiesIn, Failure.leaves]

theorem liesIn_within {what : Text} {inner : Failure} : LiesIn text (.within what inner) ↔ LiesIn text inner := by
  simp [LiesIn, Failure.leaves]

theorem liesIn_alternatives {branches : List Failure} :
    LiesIn text (.alternatives branches) ↔ ∀ branch ∈ branches, LiesIn text branch := by
  simp only [LiesIn, Failure.leaves_alternatives, List.mem_flatMap]
  constructor
  · exact fun all branch member leaf inside => all leaf ⟨branch, member, inside⟩
  · rintro all leaf ⟨branch, member, inside⟩
    exact all branch member leaf inside

theorem LiesIn.of_suffix {mid : Text} (lies : LiesIn mid why) (suffix : mid <:+ text) : LiesIn text why :=
  fun leaf member => (lies leaf member).of_suffix suffix

/-! ## Readers that account for their failures -/

/-- A reply that goes on further into the text, or gives up at places that were reached. A final failure counts, and so
does any if asked for. -/
def Keeps (leaves : Text → Prop) (counted : Prop) (text : Text) : Reply α → Prop
  | .done _ rest => rest <:+ text ∧ leaves rest
  | .fail why => LiesIn text why ∧ (counted → why.Counts)
  | .halt why => LiesIn text why ∧ why.Counts

theorem Keeps.of_suffix {leaves : Text → Prop} {counted : Prop} {mid : Text} {reply : Reply α}
    (keeps : Keeps leaves counted mid reply) (suffix : mid <:+ text) : Keeps leaves counted text reply := by
  cases reply with
  | done value rest => exact ⟨keeps.1.trans suffix, keeps.2⟩
  | fail why => exact ⟨keeps.1.of_suffix suffix, keeps.2⟩
  | halt why => exact ⟨keeps.1.of_suffix suffix, keeps.2⟩

/-- A reader that gives up where it starts, for want of something that counts. -/
theorem keeps_leaf {leaves : Text → Prop} {counted : Prop} {wanted : Expectation} (bare : skipLayout text = text)
    (counts : wanted ≠ .wordEnd) : Keeps (α := α) leaves counted text (.fail (.leaf text wanted)) :=
  ⟨liesIn_leaf.mpr (isReached_self bare), fun _ => Failure.counts_leaf.mpr counts⟩

/-- The reader keeps to such replies wherever no layout starts. -/
def AccountsAs (leaves : Text → Prop) (counted : Prop) (reader : Reader α) : Prop :=
  ∀ text, skipLayout text = text → Keeps leaves counted text (reader text)

/-- A reader of the grammar leaves no layout behind it. -/
abbrev Accounts (counted : Prop) (reader : Reader α) : Prop :=
  AccountsAs (fun rest => skipLayout rest = rest) counted reader

/-- A raw lexeme may leave layout behind it. -/
abbrev AccountsRaw (counted : Prop) (raw : Reader α) : Prop := AccountsAs (fun _ => True) counted raw

/-! ### Refusals and branches -/

namespace AccountsAs

variable {leaves : Text → Prop} {counted counted' : Prop} {reader : Reader α}

theorem mono (accounts : AccountsAs leaves counted reader) (less : counted' → counted) :
    AccountsAs leaves counted' reader := by
  intro text bare
  have keeps := accounts text bare
  revert keeps
  cases reader text with
  | done value rest => exact id
  | fail why => exact And.imp_right fun counts asked => counts (less asked)
  | halt why => exact id

theorem left (accounts : AccountsAs leaves counted reader) (bare : skipLayout text = text) {value : α}
    (done : reader text = .done value rest) : rest <:+ text ∧ leaves rest := by
  have keeps := accounts text bare
  rwa [done] at keeps

theorem liesIn (accounts : AccountsAs leaves counted reader) (bare : skipLayout text = text)
    (refuses : Refuses reader text why) : LiesIn text why := by
  have keeps := accounts text bare
  rcases refuses with refused | refused
  · rw [refused] at keeps
    exact keeps.1
  · rw [refused] at keeps
    exact keeps.1

theorem counts (accounts : AccountsAs leaves True reader) (bare : skipLayout text = text)
    (refuses : Refuses reader text why) : why.Counts := by
  have keeps := accounts text bare
  rcases refuses with refused | refused
  · rw [refused] at keeps
    exact keeps.2 trivial
  · rw [refused] at keeps
    exact keeps.2

/-- If both branches fail, both failures are kept, so it is enough that one of them counts. -/
theorem orElse {first second : Reader α} (one : AccountsAs leaves counted first)
    (other : AccountsAs leaves counted' second) : AccountsAs leaves (counted ∨ counted') (first.orElse second) := by
  intro text bare
  have keeps := one text bare
  have keeps' := other text bare
  rw [Reader.orElse]
  cases reply : first text with
  | done value rest => rwa [reply] at keeps
  | fail why =>
    rw [reply] at keeps
    dsimp only
    cases reply' : second text with
    | done value rest => rwa [reply'] at keeps'
    | fail why' =>
      rw [reply'] at keeps'
      refine ⟨liesIn_alternatives.mpr (by simp [keeps.1, keeps'.1]), fun asked => Failure.counts_alternatives.mpr ?_⟩
      rcases asked with asked | asked
      · exact ⟨why, by simp, keeps.2 asked⟩
      · exact ⟨why', by simp, keeps'.2 asked⟩
    | halt why' => rwa [reply'] at keeps'
  | halt why => rwa [reply] at keeps

theorem firstOf_nil : AccountsAs leaves False (firstOf ([] : List (Reader α))) := fun _ _ =>
  ⟨liesIn_alternatives.mpr (List.forall_mem_nil _), False.elim⟩

/-- Of several branches one has to count. -/
theorem firstOf {readers : List (Reader α)} (each : ∀ reader ∈ readers, AccountsAs leaves False reader)
    (some_ : ∃ reader ∈ readers, AccountsAs leaves True reader) : AccountsAs leaves True (firstOf readers) := by
  have quiet (readers : List (Reader α)) (each : ∀ reader ∈ readers, AccountsAs leaves False reader) :
      AccountsAs leaves False (Reader.firstOf readers) := by
    induction readers with
    | nil => exact firstOf_nil
    | cons reader readers ih =>
      obtain ⟨first, others⟩ := List.forall_mem_cons.mp each
      exact (first.orElse (ih others)).mono .inl
  induction readers with
  | nil => exact absurd some_ (by simp)
  | cons reader readers ih =>
    obtain ⟨first, others⟩ := List.forall_mem_cons.mp each
    obtain ⟨found, member, accounts⟩ := some_
    rcases List.mem_cons.mp member with rfl | later
    · exact (accounts.orElse (quiet readers others)).mono .inl
    · exact (first.orElse (ih others ⟨found, later, accounts⟩)).mono .inr

end AccountsAs

namespace Accounts

variable {counted : Prop} {reader : Reader α}

theorem of_true (accounts : Accounts True reader) : Accounts counted reader := accounts.mono fun _ => trivial

/-! ### Combinators -/

theorem pure (value : α) : Accounts counted (Pure.pure value) := fun _ bare => ⟨List.suffix_rfl, bare⟩

theorem bind {first : Reader α} {next : α → Reader β} (one : Accounts counted first)
    (other : ∀ value, Accounts counted (next value)) : Accounts counted (first >>= next) := by
  intro text bare
  have keeps := one text bare
  change Keeps _ counted text (first.andThen next text)
  rw [andThen]
  revert keeps
  cases first text with
  | done value mid => exact fun keeps => (other value mid keeps.2).of_suffix keeps.1
  | fail why => exact id
  | halt why => exact id

/-- A failure of an optional part is swallowed. -/
theorem optional (accounts : Accounts False reader) : Accounts counted (Reader.optional reader) := by
  intro text bare
  have keeps := accounts text bare
  rw [Reader.optional]
  revert keeps
  cases reader text with
  | done value rest => exact id
  | fail why => exact fun _ => ⟨List.suffix_rfl, bare⟩
  | halt why => exact id

theorem commit (accounts : Accounts True reader) : Accounts counted (Reader.commit reader) := by
  intro text bare
  have keeps := accounts text bare
  rw [Reader.commit]
  revert keeps
  cases reader text with
  | done value rest => exact id
  | fail why => exact And.imp_right fun counts => counts trivial
  | halt why => exact id

theorem located (accounts : Accounts counted reader) : Accounts counted (Reader.located reader) := by
  intro text bare
  have keeps := accounts text bare
  rw [Reader.located]
  revert keeps
  cases reader text <;> exact id

theorem consumed (accounts : Accounts counted reader) : Accounts counted (Reader.consumed reader) := by
  intro text bare
  have keeps := accounts text bare
  rw [Reader.consumed]
  revert keeps
  cases reader text <;> exact id

/-- A failure at the end of a repetition is swallowed. -/
theorem many (accounts : Accounts False reader) : Accounts counted (Reader.many reader) := by
  intro text bare
  induction size : text.length using Nat.strongRecOn generalizing text with
  | ind size ih =>
    have keeps := accounts text bare
    rw [Reader.many]
    cases reply : reader text with
    | done value mid =>
      rw [reply] at keeps
      dsimp only
      split
      · next shorter =>
        have keeps' := (ih mid.length (size ▸ shorter) mid keeps.2 rfl).of_suffix keeps.1
        revert keeps'
        cases Reader.many reader mid <;> exact id
      · exact keeps_leaf bare (by simp)
    | fail why => exact ⟨List.suffix_rfl, bare⟩
    | halt why => rwa [reply] at keeps

theorem recursive {body : Reader α → Reader α} (step : ∀ inner, Accounts True inner → Accounts True (body inner)) :
    Accounts True (Reader.recursive body) := by
  intro text bare
  induction size : text.length using Nat.strongRecOn generalizing text with
  | ind size ih =>
    rw [recursive_apply]
    refine step _ (fun start bareStart => ?_) text bare
    unfold guarded
    split
    · next shorter => exact ih start.length (size ▸ shorter) start bareStart rfl
    · exact keeps_leaf bareStart (by simp)

theorem endOfInput : Accounts counted endOfInput := by
  intro text bare
  rw [Reader.endOfInput]
  split
  · exact ⟨List.suffix_rfl, bare⟩
  · exact keeps_leaf bare (by simp)

/-! ### Repetitions of the grammar -/

theorem chainLeft {operator : Reader β} {build : β → α → α → α} (operand : Accounts True reader)
    (accounts : Accounts False operator) : Accounts True (Reader.chainLeft operator reader build) :=
  operand.bind fun _ => bind (many (accounts.bind fun _ => operand.of_true.bind fun _ => pure _)) fun _ =>
    pure _

theorem signsBefore {operator : Reader β} {build : β → α → α} (operand : Accounts True reader)
    (accounts : Accounts False operator) : Accounts True (Reader.signsBefore operator reader build) :=
  bind (many accounts) fun _ => operand.bind fun _ => pure _

theorem marksAfter {mark : Reader β} {build : α → β → α} (operand : Accounts True reader)
    (accounts : Accounts False mark) : Accounts True (Reader.marksAfter reader mark build) :=
  operand.bind fun _ => bind (many accounts) fun _ => pure _

theorem separated {separator : Reader β} (item : Accounts True reader) (accounts : Accounts False separator) :
    Accounts True (Reader.separated separator reader) :=
  item.bind fun _ => bind (many (accounts.bind fun _ => item.commit)) fun _ => pure _

end Accounts

end Reader

end BulkSql
