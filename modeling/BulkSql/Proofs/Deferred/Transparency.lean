import BulkSql.Proofs.Deferred.Building
import BulkSql.Proofs.Postgres.Slots

/-! # Voided statements beside prepared ones

A statement is used with values, ends of rows and clearings, once deferred and once prepared from the start. When the
deferred one is voided both have the same rows. They have the same parameters as long as no row was added, and whenever
the prepared one could be executed. Otherwise it was cleared after a row and not all of it was bound again: then the
voided one has the values of the last row where the other one has none.
-/

namespace BulkSql

/-- A use of a statement that a deferred one keeps to itself. -/
inductive ParameterCall where
  | bind (index : Nat) (value : SqlValue)
  | addBatch
  | clearParameters

namespace ParameterCall

/-- The call on a deferred statement. -/
def request : ParameterCall → Request
  | bind index value => .setValue index value
  | addBatch => .addBatch
  | clearParameters => .clearParameters

/-- The call on a prepared statement. -/
def direct {Connection Handle Rows : Type} (client : Client Connection Handle Rows) :
    ParameterCall → Call (Connection × Handle) Unit
  | bind index value => client.bind index value
  | addBatch => client.addBatch
  | clearParameters => client.clearParameters

/-- What the call makes of slots. -/
def fill (slots : ParameterSlots) : ParameterCall → Except SqlError ParameterSlots
  | bind index value => slots.bind index value
  | addBatch => slots.addBatch
  | clearParameters => .ok slots.clear

theorem isKept_request (call : ParameterCall) : call.request.IsKept := by cases call <;> trivial

end ParameterCall

theorem Client.KeepsSlots.direct {Connection Handle Rows : Type} {client : Client Connection Handle Rows}
    {slots : Handle → ParameterSlots} (keeps : client.KeepsSlots slots) (call : ParameterCall) :
    Client.Follows slots (call.direct client) fun slots => call.fill slots := by
  cases call with
  | bind index value => exact keeps.bind index value
  | addBatch => exact keeps.addBatch
  | clearParameters => exact keeps.clearParameters

/-! ## Slots beside the plain list -/

/-- The slots of a prepared statement after the calls that a plain list was built by. What is bound since the last row
lies over that row, or over nothing once the parameters were cleared. -/
structure PlainBatch.Mirrors (plain : PlainBatch) (count : Nat) (slots : ParameterSlots) : Prop where
  size : slots.slots.length = count
  batch : slots.batch = plain.rows
  width : ∀ row ∈ plain.rows, row.length = count
  inside : ∀ index ∈ plain.pending.indices, 0 < index ∧ index ≤ count
  bound : slots.slots = overlay plain.pending (List.replicate count none) ∨
    slots.slots = overlay plain.pending (ParameterSlots.lastRow plain.rows (List.replicate count none))

namespace PlainBatch

variable {plain : PlainBatch} {count : Nat} {slots after : ParameterSlots}

theorem mirrors_ofCount (count : Nat) : Mirrors {} count (.ofCount count) where
  size := List.length_replicate
  batch := rfl
  width := by simp
  inside := by simp [Pending.indices]
  bound := .inl (overlay_nil _).symm

theorem Mirrors.bind (same : plain.Mirrors count slots) {index : Nat} {value : SqlValue}
    (ran : slots.bind index value = .ok after) : (plain.bind index value).Mirrors count after := by
  unfold ParameterSlots.bind at ran
  split at ran
  · next inside =>
    cases ran
    refine ⟨by rw [List.length_set, same.size], same.batch, same.width, ?_, ?_⟩
    · intro other member
      simp only [PlainBatch.bind, Pending.indices, List.map_cons, List.toFinset_cons, Finset.mem_insert] at member
      rcases member with rfl | earlier
      · rw [← same.size]
        exact inside
      · exact same.inside other earlier
    · simp only [PlainBatch.bind]
      rw [← overlay_set inside.1, ← overlay_set inside.1]
      apply same.bound.imp
      · intro bound
        rw [bound]
      · intro bound
        rw [bound]
  · cases ran

theorem Mirrors.clear (same : plain.Mirrors count slots) :
    ({ plain with pending := [] } : PlainBatch).Mirrors count slots.clear where
  size := (List.length_map _).trans same.size
  batch := same.batch
  width := same.width
  inside := by simp [Pending.indices]
  bound := by
    left
    rw [overlay_nil, ParameterSlots.clear, List.map_const', same.size]

/-- A first row takes up all slots, a later one is as wide as the first. -/
theorem Mirrors.length_row (same : plain.Mirrors count slots) {row values : List SqlValue}
    (complete : plain.pending.row? = some row) (accepted : plain.rows.accepts row)
    (full : slots.slots = values.map some) : row.length = count := by
  have bound := Pending.lookup_of_row? complete
  cases started : plain.rows with
  | cons first rows =>
    rw [started] at accepted
    have wide := ((PlainRows.accepts_iff ..).mp accepted).1.resolve_left (by simp)
    have firstWide := same.width first (by simp [started])
    rw [wide, ← firstWide]
    rfl
  | nil =>
    have only : overlay plain.pending (List.replicate count none) = values.map some := by
      rw [← full]
      rcases same.bound with bound | bound
      · exact bound.symm
      · rw [started] at bound
        exact bound.symm
    have reaches (place : Nat) : place < row.length ↔ place < count := by
      constructor
      · intro inside
        have present : (plain.pending.lookup (place + 1)).isSome := by
          rw [bound, List.getElem?_eq_getElem inside]
          rfl
        have bounds := same.inside _ ((Pending.isSome_lookup_iff ..).mp present)
        omega
      · intro inside
        have present := isSome_lookup_of_overlay only inside
        rw [bound] at present
        by_contra outside
        rw [List.getElem?_eq_none (Nat.le_of_not_lt outside)] at present
        cases present
    have first := reaches row.length
    have last := reaches count
    omega

/-- A row that both take is the same row. -/
theorem Mirrors.row_eq (same : plain.Mirrors count slots) {row values : List SqlValue}
    (complete : plain.pending.row? = some row) (accepted : plain.rows.accepts row)
    (full : slots.slots = values.map some) : values = row := by
  obtain ⟨base, bound⟩ : ∃ base, slots.slots = overlay plain.pending base := by
    rcases same.bound with bound | bound
    · exact ⟨_, bound⟩
    · exact ⟨_, bound⟩
  have width : row.length = base.length := by
    rw [same.length_row complete accepted full, ← same.size, bound, length_overlay]
  have rows : values.map some = row.map some := by
    calc
      values.map some = overlay plain.pending base := by rw [← full, bound]
      _ = overlay (numbered row) base :=
        overlay_congr fun place => by rw [Pending.lookup_of_row? complete, lookup_numbered]
      _ = row.map some := overlay_numbered width
  exact List.map_injective_iff.mpr (Option.some_injective _) rows

theorem Mirrors.addRow (same : plain.Mirrors count slots) (taken : plain.takesRow) (ran : slots.addBatch = .ok after) :
    plain.addRow.Mirrors count after := by
  obtain ⟨row, complete, accepted⟩ := (Option.any_eq_true ..).mp taken
  unfold ParameterSlots.addBatch at ran
  cases bound : slots.row with
  | error error =>
    rw [bound] at ran
    cases ran
  | ok values =>
    rw [bound] at ran
    cases ran
    have full := (ParameterSlots.row_eq_ok_iff ..).mp bound
    obtain rfl := same.row_eq complete accepted full
    have added : plain.addRow = { pending := [], rows := plain.rows ++ [values] } := by
      rw [PlainBatch.addRow, complete]
      dsimp only
      rw [if_pos accepted]
    rw [added]
    refine ⟨same.size, by rw [same.batch], ?_, by simp [Pending.indices], .inr ?_⟩
    · intro row member
      rcases List.mem_append.mp member with before | last
      · exact same.width row before
      · rw [List.mem_singleton.mp last, same.length_row complete accepted full]
    · rw [overlay_nil, ParameterSlots.lastRow, List.getLast?_concat]
      exact full

/-- One call that both statements accept. -/
theorem Mirrors.step (same : plain.Mirrors count slots) {call : ParameterCall}
    (accepted : call = .addBatch → plain.takesRow) (ran : call.fill slots = .ok after) :
    (plain.after call.request).Mirrors count after := by
  cases call with
  | bind index value => exact same.bind ran
  | addBatch => exact same.addRow (accepted rfl) ran
  | clearParameters =>
    cases ran
    exact same.clear

/-! ## Taking over -/

/-- A statement that was just prepared takes over the rows. -/
theorem Mirrors.addRows (same : plain.Mirrors count slots) :
    plain.rows.foldlM ParameterSlots.addRow (.ofCount count) = .ok {
      slots := ParameterSlots.lastRow plain.rows (List.replicate count none)
      batch := plain.rows } := by
  apply ParameterSlots.addRows_of_width
  intro row member
  rw [same.width row member]
  exact List.length_replicate.symm

/-- The values of the row that is being built are bound over what a statement holds. -/
theorem Mirrors.bindAll (same : plain.Mirrors count slots) {table : BindingTable} (held : table.Represents plain.pending)
    {delivered : ParameterSlots} (size : delivered.slots.length = count) :
    delivered.bindAll (ParameterRecord.entries table.records) =
      .ok { delivered with slots := overlay plain.pending delivered.slots } := by
  rw [← overlay_congr fun place => held.lookup_eq (place + 1)]
  apply ParameterSlots.bindAll_of_pairwise
  · exact List.pairwise_map.mpr table.sorted
  · intro entry member
    obtain ⟨record, inside, rfl⟩ := List.mem_map.mp member
    rw [size]
    exact same.inside record.index ((held.mem_indices_iff _).mp (List.mem_map_of_mem inside))

/-- The slots after the takeover are those of the other statement exactly if there is no row or all of these are
bound. -/
theorem Mirrors.overlay_eq_iff (same : plain.Mirrors count slots) :
    overlay plain.pending (ParameterSlots.lastRow plain.rows (List.replicate count none)) = slots.slots ↔
      slots.batch = [] ∨ ∃ values, slots.row = .ok values := by
  rw [same.batch]
  constructor
  · intro equal
    cases last : plain.rows.getLast? with
    | none => exact .inl (List.getLast?_eq_none_iff.mp last)
    | some row =>
      right
      -- each place has a value, a pending one or else that of the last row
      refine ⟨row.mapIdx fun place value => (plain.pending.lookup (place + 1)).getD value, ?_⟩
      rw [ParameterSlots.row_eq_ok_iff, ← equal, ParameterSlots.lastRow, last]
      apply List.ext_getElem?
      intro place
      rw [getElem?_overlay, List.getElem?_map, List.getElem?_mapIdx]
      change (row.map some)[place]?.map _ = _
      rw [List.getElem?_map]
      cases row[place]? with
      | none => rfl
      | some value => cases bound : plain.pending.lookup (place + 1) <;> rfl
  · rintro (none_ | ⟨values, taken⟩)
    · rw [none_]
      rcases same.bound with bound | bound
      · exact bound.symm
      · rw [none_] at bound
        exact bound.symm
    · have full := (ParameterSlots.row_eq_ok_iff ..).mp taken
      rcases same.bound with bound | bound
      · rw [bound]
        rw [full] at bound
        apply overlay_of_full
        · rw [(ParameterSlots.length_lastRow_replicate same.width), List.length_replicate]
        · intro place inside
          rw [List.length_replicate] at inside
          exact isSome_lookup_of_overlay bound.symm inside
      · exact bound.symm

end PlainBatch

namespace Deferred

variable {Connection Handle Rows : Type} {client : Client Connection Handle Rows} {slots : Handle → ParameterSlots}
  {sql : Text} {settings : Settings} {session : Session Connection Handle}

/-! ## Both statements -/

/-- A row that a deferred statement ends can be ended in the plain list. -/
theorem Holds.takesRow (client : Client Connection Handle Rows) {plain : PlainBatch}
    (holds : Holds session.statement sql settings plain)
    (accepted : (Request.addBatch.answer client session).1.isOk) : plain.takesRow := by
  obtain ⟨answer, statement, ran, -, takes⟩ := on_addBatch client holds
  change (Call.on (addBatch client >>= fun _ => pure Response.done) session).1.isOk at accepted
  rw [Call.on_bind_pure, ran] at accepted
  cases answer with
  | error error => cases accepted
  | ok _ => exact takes.symm

/-- Calls that a deferred statement and slots both accept. -/
theorem Holds.mirrors {calls : List ParameterCall} {built : Session Connection Handle} {plain : PlainBatch}
    {start last : ParameterSlots} {responses : List (Except SqlError (Response Rows))}
    {count : Nat} (holds : Holds session.statement sql settings plain) (same : plain.Mirrors count start)
    (deferred : Request.answerAll client session (calls.map ParameterCall.request) = (responses, built))
    (accepted : ∀ response ∈ responses, response.isOk) (filled : calls.foldlM ParameterCall.fill start = .ok last) :
    ∃ plain statement, built = { session with statement } ∧ Holds statement sql settings plain ∧
      plain.Mirrors count last := by
  induction calls generalizing session plain start responses with
  | nil =>
    cases deferred
    cases filled
    exact ⟨plain, _, rfl, holds, same⟩
  | cons call calls ih =>
    obtain ⟨response, statement, answered, held⟩ := holds.answer client call.isKept_request
    rw [List.foldlM_cons] at filled
    cases ran : call.fill start with
    | error error =>
      rw [ran] at filled
      cases filled
    | ok after =>
      rw [ran] at filled
      simp only [List.map_cons, Request.answerAll, answered] at deferred
      obtain ⟨rfl, rfl⟩ := Prod.mk.inj deferred
      have here : (call.request.answer client session).1.isOk := by
        rw [answered]
        exact accepted response (List.mem_cons_self ..)
      have next := same.step (fun isRow => holds.takesRow client (by rw [isRow] at here; exact here)) ran
      have follows : Holds ({ session with statement } : Session Connection Handle).statement sql settings _ := held
      have rest := ih follows next rfl fun other member => accepted other (List.mem_cons_of_mem _ member)
      exact rest filled

/-- A call on the handle of a voided statement changes its slots. -/
theorem on_onHandle_of_follows {handle : Handle} (voided : session.statement.phase = .voided handle)
    {call : Call (Connection × Handle) Unit} {change : ParameterSlots → Except SqlError ParameterSlots}
    (follows : Client.Follows slots call change) {after : ParameterSlots} (changed : change (slots handle) = .ok after) :
    ∃ connection own, Call.on (onHandle call) session =
      (.ok (), { connection, statement := { session.statement with phase := .voided own } }) ∧ slots own = after := by
  obtain ⟨answer, filled⟩ := follows (session.connection, handle)
  refine ⟨(call.on (session.connection, handle)).2.1, (call.on (session.connection, handle)).2.2, ?_,
    filled after changed⟩
  rw [on_onHandle_of_voided voided, answer, changed]
  rfl

/-- A voided statement took over the rows and goes on with the values. -/
theorem on_load_of_rows (keeps : client.KeepsSlots slots) {handle : Handle}
    (voided : session.statement.phase = .voided handle) {rows : List (List SqlValue)} {added : ParameterSlots}
    (addedRows : rows.foldlM ParameterSlots.addRow (slots handle) = .ok added) :
    ∃ connection own, slots own = added ∧ (load client rows).on session =
      (onHandle (client.bindRecords session.statement.bindings.records)).on
        { connection, statement := { session.statement with phase := .voided own, bindings := {} } } := by
  obtain ⟨connection, own, adds, filled⟩ := on_onHandle_of_follows voided (keeps.addRows rows) addedRows
  refine ⟨connection, own, filled, ?_⟩
  rw [load, Call.on_bind_ok adds, Call.on_bind_ok (Call.on_get _), Call.on_bind_ok (on_modifyStatement ..)]

/-- A voided statement takes over rows and values. -/
theorem on_load_of_voided (keeps : client.KeepsSlots slots) {handle : Handle}
    (voided : session.statement.phase = .voided handle) {rows : List (List SqlValue)} {added final : ParameterSlots}
    (addedRows : rows.foldlM ParameterSlots.addRow (slots handle) = .ok added)
    (boundAll : added.bindAll (ParameterRecord.entries session.statement.bindings.records) = .ok final) :
    ∃ connection own, (load client rows).on session =
      (.ok (), { connection, statement := { session.statement with phase := .voided own, bindings := {} } }) ∧
      slots own = final := by
  obtain ⟨connection, own, filled, loads⟩ := on_load_of_rows keeps voided addedRows
  have still : ({ connection, statement := { session.statement with phase := .voided own, bindings := {} } } :
      Session Connection Handle).statement.phase = .voided own := rfl
  obtain ⟨after, last, binds, bound⟩ := on_onHandle_of_follows still
    (keeps.bindRecords session.statement.bindings.records) (by rw [filled]; exact boundAll)
  exact ⟨after, last, loads.trans binds, bound⟩

/-- A deferred statement and one that was prepared from the start, both used with the same calls, all of which both
accept. Once the deferred one is voided, its rows are those of the other one. Its parameters are too, exactly if no row
was added or all parameters of the other one are bound. -/
theorem voided_slots_eq_iff (keeps : client.KeepsSlots slots) (connection : Connection) (sql : Text) (settings : Settings)
    {calls : List ParameterCall} {responses : List (Except SqlError (Response Rows))} {built : Session Connection Handle}
    (deferred : Request.answerAll client { connection, statement := { sql, settings } }
      (calls.map ParameterCall.request) = (responses, built))
    (accepted : ∀ response ∈ responses, response.isOk) {handle : Handle} {prepared : Connection}
    (preparing : (client.prepare sql).on connection = (.ok handle, prepared)) {last : Connection × Handle}
    (direct : Call.on (calls.forM fun call => call.direct client) (prepared, handle) = (.ok (), last)) :
    ∃ voided own, (void client).on built = (.ok (), voided) ∧ voided.statement.phase = .voided own ∧
      (slots own).batch = (slots last.2).batch ∧
      ((slots own).slots = (slots last.2).slots ↔
        (slots last.2).batch = [] ∨ ∃ values, (slots last.2).row = .ok values) := by
  obtain ⟨count, fresh⟩ := keeps.prepared preparing
  have filled := (Client.follows_forM keeps.direct calls).of_ok direct
  dsimp only at filled
  rw [fresh] at filled
  obtain ⟨plain, statement, rfl, holds, same⟩ :=
    (holds_nil sql settings).mirrors (PlainBatch.mirrors_ofCount count) deferred accepted filled
  have prepares : Call.on (onConnection (client.prepare statement.sql)) { connection, statement } =
      (.ok handle, { connection := prepared, statement }) := by
    rw [on_onConnection, holds.sql, preparing]
  have still : ({ connection := prepared, statement := { statement with phase := .voided handle, batch := {} } } :
      Session Connection Handle).statement.phase = .voided handle := rfl
  obtain ⟨after, own, loads, delivered⟩ := on_load_of_voided keeps still
    (by rw [fresh]; exact same.addRows) (same.bindAll holds.bindings (ParameterSlots.length_lastRow_replicate same.width))
  refine ⟨{ connection := after, statement := { statement with phase := .voided own, batch := {}, bindings := {} } },
    own, ?_, rfl, ?_, ?_⟩
  · rw [void, Call.on_bind_ok (Call.on_get _)]
    dsimp only
    rw [holds.phase]
    dsimp only
    rw [Call.on_bind_ok prepares, Call.on_bind_ok (on_modifyStatement ..), holds.batch.valueRows_eq]
    exact loads
  · rw [delivered, same.batch]
  · rw [delivered]
    exact same.overlay_eq_iff

/-- A server whose statements have one parameter. -/
def oneParameter : PgServer Unit Unit where
  prepare _ := pure ((), [.scalar .int4])
  execute _ _ := pure { summary := "INSERT 0 1", rows := 0 }

def oneParameterStatement (slots : ParameterSlots) : PgStatement Unit where
  name := ()
  types := [.scalar .int4]
  slots

theorem prepare_oneParameter : (oneParameter.client.prepare "insert into t (a) values (?)").on () =
    (.ok (oneParameterStatement (.ofCount 1)), ()) := by
  have numbers : Numbering.number "insert into t (a) values (?)" =
      .ok { sql := "insert into t (a) values ($1)", count := 1 } := by decide +kernel
  change Call.on (oneParameter.prepareStatement _) () = _
  rw [PgServer.prepareStatement, numbers]
  rfl

/-- The parameter is cleared after a row and then bound again. -/
theorem voided_slots_eq_iff_bound_again :
    let calls : List ParameterCall := [.bind 1 (.int 5), .addBatch, .clearParameters, .bind 1 (.int 7)]
    let session : Session Unit (PgStatement Unit) :=
      { connection := (), statement := { sql := "insert into t (a) values (?)", settings := {} } }
    let deferred := Request.answerAll oneParameter.client session (calls.map ParameterCall.request)
    ∃ voided own, (void oneParameter.client).on deferred.2 = (.ok (), voided) ∧ voided.statement.phase = .voided own ∧
      own.slots.batch = [[.int 5]] ∧ own.slots.slots = [some (.int 7)] := by
  intro calls session deferred
  have accepted : ∀ response ∈ deferred.1, response.isOk := List.all_eq_true.mp (by decide +kernel)
  have direct : Call.on (calls.forM fun call => call.direct oneParameter.client)
      ((), oneParameterStatement (.ofCount 1)) =
        (.ok (), (), oneParameterStatement { slots := [some (.int 7)], batch := [[.int 5]] }) := rfl
  obtain ⟨voided, own, voids, phase, rows, same⟩ := voided_slots_eq_iff oneParameter.keepsSlots ()
    "insert into t (a) values (?)" {} (Prod.mk.eta (p := deferred)).symm accepted prepare_oneParameter direct
  exact ⟨voided, own, voids, phase, rows, same.mpr (.inr ⟨[.int 7], rfl⟩)⟩

/-- The parameter is cleared after a row. The voided statement would be executed with the value of the row, the other
one misses a value. -/
theorem voided_slots_survive_clearParameters :
    let calls : List ParameterCall := [.bind 1 (.int 5), .addBatch, .clearParameters]
    let session : Session Unit (PgStatement Unit) :=
      { connection := (), statement := { sql := "insert into t (a) values (?)", settings := {} } }
    let deferred := Request.answerAll oneParameter.client session (calls.map ParameterCall.request)
    ∃ handle last voided own, (∀ response ∈ deferred.1, response.isOk) ∧
      (oneParameter.client.prepare "insert into t (a) values (?)").on () = (.ok handle, ()) ∧
      Call.on (calls.forM fun call => call.direct oneParameter.client) ((), handle) = (.ok (), last) ∧
      (void oneParameter.client).on deferred.2 = (.ok (), voided) ∧ voided.statement.phase = .voided own ∧
      own.slots.row = .ok [.int 5] ∧ last.2.slots.row = .error (.missingParameter 1) := by
  intro calls session deferred
  have unprepared : deferred.2.statement.phase = .deferred := rfl
  have prepares : Call.on (onConnection (oneParameter.client.prepare deferred.2.statement.sql)) deferred.2 =
      (.ok (oneParameterStatement (.ofCount 1)), deferred.2) := by
    rw [on_onConnection]
    change ((Call.on (oneParameter.client.prepare "insert into t (a) values (?)") ()).1, _) = _
    rw [prepare_oneParameter]
  have voids : (void oneParameter.client).on deferred.2 = (.ok (), { session with statement := { session.statement with
      phase := .voided (oneParameterStatement { slots := [some (.int 5)], batch := [[.int 5]] }) } }) := by
    rw [void, Call.on_bind_ok (Call.on_get _)]
    dsimp only
    rw [unprepared]
    dsimp only
    rw [Call.on_bind_ok prepares]
    rfl
  refine ⟨oneParameterStatement (.ofCount 1), ((), oneParameterStatement { slots := [none], batch := [[.int 5]] }),
    _, _, ?_, prepare_oneParameter, rfl, voids, rfl, rfl, rfl⟩
  exact List.all_eq_true.mp (by decide +kernel)

end Deferred

end BulkSql
