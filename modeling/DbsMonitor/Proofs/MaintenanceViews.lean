import Mathlib.Data.String.Basic
import DbsMonitor.Maintenance

/-!
# Three views of a maintenance window

Each of the three is compared with the same condition on the row (`MaintenanceWindowRow.InEffect`).
The first two are this condition. But the statement also has to leave a window that ends after it
starts, and in the microsecond in which the window starts it cannot.
-/

namespace DbsMonitor

section choice

variable {instanceId : InstanceId} {instant : ℤ} {windows windows' : List MaintenanceWindow}
  {window : MaintenanceWindow}

def MaintenanceWindow.endKey (window : MaintenanceWindow) : ℤ ×ₗ String :=
  toLex (window.endsAt, window.id)

theorem MaintenanceWindow.endKey_lt (window window' : MaintenanceWindow) :
    window.endKey < window'.endKey
      ↔ window.endsAt < window'.endsAt ∨ window.endsAt = window'.endsAt ∧ window.id < window'.id :=
  Prod.Lex.toLex_lt_toLex

theorem activeMaintenanceWindow_eq_argmin {κ : Type*} [LinearOrder κ] {key : MaintenanceWindow → κ}
    (hkey : ∀ window window', key window < key window'
      ↔ window.endsAt < window'.endsAt ∨ window.endsAt = window'.endsAt ∧ window.id < window'.id) :
    activeMaintenanceWindow instanceId instant windows
      = (windows.filter (·.covers instanceId instant)).argmin key := by
  unfold activeMaintenanceWindow List.argmin
  rw [List.foldl_filter]
  refine congrArg (List.foldl · none windows) (funext fun active => funext fun window => ?_)
  by_cases hcovers : window.covers instanceId instant = true
  · rw [if_pos hcovers, if_neg (by simp [hcovers])]
    cases active with
    | none => rfl
    | some found => simp only [List.argAux, hkey]
  · rw [if_neg hcovers, if_pos (by simpa using hcovers)]

theorem activeMaintenanceWindow_eq_some_iff (hids : (windows.map MaintenanceWindow.id).Nodup) :
    activeMaintenanceWindow instanceId instant windows = some window
      ↔ (window ∈ windows ∧ window.covers instanceId instant = true)
        ∧ ∀ other ∈ windows, other.covers instanceId instant = true → other ≠ window →
          window.endsAt < other.endsAt
            ∨ window.endsAt = other.endsAt ∧ window.id < other.id := by
  have hleast : ∀ {w}, activeMaintenanceWindow instanceId instant windows = some w →
      (w ∈ windows ∧ w.covers instanceId instant = true)
        ∧ ∀ other ∈ windows, other.covers instanceId instant = true → other ≠ w →
          w.endKey < other.endKey := by
    intro w hw
    rw [activeMaintenanceWindow_eq_argmin MaintenanceWindow.endKey_lt] at hw
    refine ⟨List.mem_filter.mp (List.argmin_mem hw), fun other hother hcovers hne => ?_⟩
    refine lt_of_le_of_ne (List.le_of_mem_argmin (List.mem_filter.mpr ⟨hother, hcovers⟩) hw) ?_
    intro heq
    exact hne (List.inj_on_of_nodup_map hids hother (List.mem_filter.mp (List.argmin_mem hw)).1
      (congrArg (fun key => (ofLex key).2) heq).symm)
  simp only [← MaintenanceWindow.endKey_lt]
  refine ⟨hleast, fun ⟨⟨hmem, hcovers⟩, hmin⟩ => ?_⟩
  cases hactive : activeMaintenanceWindow instanceId instant windows with
  | none =>
    rw [activeMaintenanceWindow_eq_argmin MaintenanceWindow.endKey_lt, List.argmin_eq_none]
      at hactive
    exact absurd (List.mem_filter.mpr ⟨hmem, hcovers⟩) (by rw [hactive]; exact List.not_mem_nil)
  | some found =>
    obtain ⟨⟨hfound, hcovers'⟩, hmin'⟩ := hleast hactive
    by_contra hne
    have hne : found ≠ window := fun h => hne (congrArg some h)
    exact lt_asymm (hmin found hfound hcovers' hne) (hmin' window hmem hcovers hne.symm)

theorem activeMaintenanceWindow_perm (hids : (windows.map MaintenanceWindow.id).Nodup)
    (hperm : windows'.Perm windows) :
    activeMaintenanceWindow instanceId instant windows'
      = activeMaintenanceWindow instanceId instant windows := by
  refine Option.ext fun window => ?_
  rw [activeMaintenanceWindow_eq_some_iff hids,
    activeMaintenanceWindow_eq_some_iff ((hperm.map _).nodup_iff.mpr hids)]
  simp only [hperm.mem_iff]

end choice

theorem le_timestamptz_iff {s t : ℤ} (hs : timestamptz s = s) : s ≤ timestamptz t ↔ s ≤ t := by
  constructor
  · exact fun h => h.trans (timestamptz_le t)
  · intro h
    rw [← hs]
    exact timestamptz_mono h

/-- The window is in effect: it was not deleted and the instant is within its bounds. -/
def MaintenanceWindowRow.InEffect (row : MaintenanceWindowRow) (instant : ℤ) : Prop :=
  row.deletedAt.isNone ∧ row.startsAt ≤ instant ∧ instant < row.endsAt

theorem MaintenanceWindowRow.inEffect_start {row : MaintenanceWindowRow} {instant : ℤ}
    (hdeleted : row.deletedAt.isNone = true) (h : timestamptz instant = row.startsAt) :
    row.InEffect instant := by
  have hend := le_timestamptz_iff (t := instant) row.endsAt_stored
  have hlt := row.checks.1
  have hle := timestamptz_le instant
  exact ⟨hdeleted, by omega, by omega⟩

theorem MaintenanceWindowColumns.write_eq_some {columns : MaintenanceWindowColumns}
    {row : MaintenanceWindowRow} :
    columns.write = some row
      ↔ columns.stored.Checks ∧ row.toMaintenanceWindowColumns = columns.stored := by
  unfold write
  split_ifs with h
  · simp only [Option.some.injEq, h, true_and]
    refine ⟨fun heq => by rw [← heq], fun heq => ?_⟩
    cases row
    cases heq
    rfl
  · simp [h]

theorem MaintenanceWindowColumns.write_eq_none {columns : MaintenanceWindowColumns} :
    columns.write = none ↔ ¬ columns.stored.Checks := by
  unfold write
  split_ifs with h
  · simp [h]
  · simp [h]

namespace MaintenanceTables

variable {tables : MaintenanceTables} {now : ℤ} {actor : Accounts.UserId} {id : String}
  {instanceId : InstanceId}

theorem getMaintenanceWindow_eq_some {row : MaintenanceWindowRow} :
    tables.getMaintenanceWindow id = some row
      ↔ tables.windows.lookup id = some row ∧ row.deletedAt.isNone = true :=
  Option.filter_eq_some_iff

def ReportedActive (tables : MaintenanceTables) (now : ℤ) (id : String) (instanceId : InstanceId) :
    Prop :=
  ∃ window ∈ tables.reported now,
    window.id = id ∧ instanceId ∈ window.instanceIds ∧ window.status = .active

def Eligible (tables : MaintenanceTables) (now : ℤ) (id : String) (instanceId : InstanceId) :
    Prop :=
  ∃ window ∈ tables.scopesOf instanceId, window.id = id ∧ window.covers instanceId now = true

def Endable (tables : MaintenanceTables) (now : ℤ) (actor : Accounts.UserId) (id : String) : Prop :=
  (tables.endMaintenanceWindow now actor id).2.succeeded = true

theorem mem_sorted_windows {p : (_ : String) × MaintenanceWindowRow → Bool}
    {le : String × MaintenanceWindowRow → String × MaintenanceWindowRow → Prop} [DecidableRel le]
    {window : String × MaintenanceWindowRow} :
    window ∈ ((tables.windows.entries.filter p).map
        fun entry => (entry.1, entry.2)).insertionSort le
      ↔ tables.windows.lookup window.1 = some window.2 ∧ p ⟨window.1, window.2⟩ = true := by
  rw [List.mem_insertionSort, List.mem_map]
  constructor
  · rintro ⟨entry, hentry, rfl⟩
    obtain ⟨hmem, hp⟩ := List.mem_filter.mp hentry
    exact ⟨AList.mem_lookup_iff.mpr hmem, hp⟩
  · rintro ⟨hlookup, hp⟩
    exact ⟨⟨window.1, window.2⟩, List.mem_filter.mpr ⟨AList.mem_lookup_iff.mp hlookup, hp⟩, rfl⟩

theorem mem_listMaintenanceWindows {window : String × MaintenanceWindowRow} :
    window ∈ tables.listMaintenanceWindows
      ↔ tables.windows.lookup window.1 = some window.2 ∧ window.2.deletedAt.isNone = true :=
  mem_sorted_windows

theorem mem_listMaintenanceWindowInstances :
    instanceId ∈ tables.listMaintenanceWindowInstances id ↔ (id, instanceId) ∈ tables.scopes := by
  unfold listMaintenanceWindowInstances
  rw [List.mem_insertionSort, List.mem_map]
  constructor
  · rintro ⟨⟨id', instanceId'⟩, hscope, rfl⟩
    obtain ⟨hmem, hid⟩ := List.mem_filter.mp hscope
    obtain rfl : id' = id := of_decide_eq_true hid
    exact hmem
  · intro hscope
    exact ⟨(id, instanceId), List.mem_filter.mpr ⟨hscope, decide_eq_true rfl⟩, rfl⟩

theorem mem_listMaintenanceWindowsForInstance {window : String × MaintenanceWindowRow} :
    window ∈ tables.listMaintenanceWindowsForInstance instanceId
      ↔ tables.windows.lookup window.1 = some window.2 ∧ (window.1, instanceId) ∈ tables.scopes
        ∧ window.2.deletedAt.isNone = true := by
  unfold listMaintenanceWindowsForInstance
  rw [mem_sorted_windows, Bool.and_eq_true, decide_eq_true_iff]

theorem reportedActive_iff :
    tables.ReportedActive now id instanceId
      ↔ ∃ row, tables.windows.lookup id = some row ∧ row.InEffect now
        ∧ (id, instanceId) ∈ tables.scopes := by
  constructor
  · rintro ⟨window, hwindow, rfl, hinstance, hstatus⟩
    obtain ⟨⟨id, row⟩, hlisted, rfl⟩ := List.mem_map.mp hwindow
    obtain ⟨hlookup, hdeleted⟩ := mem_listMaintenanceWindows.mp hlisted
    refine ⟨row, hlookup, ⟨hdeleted, ?_⟩, mem_listMaintenanceWindowInstances.mp hinstance⟩
    simp only [toAPIMaintenanceWindow] at hstatus
    split_ifs at hstatus with hstart hend
    exact ⟨not_lt.mp hstart, hend⟩
  · rintro ⟨row, hlookup, ⟨hdeleted, hstart, hend⟩, hscope⟩
    have hlisted : (id, row) ∈ tables.listMaintenanceWindows :=
      mem_listMaintenanceWindows.mpr ⟨hlookup, hdeleted⟩
    refine ⟨_, List.mem_map_of_mem hlisted, rfl, mem_listMaintenanceWindowInstances.mpr hscope, ?_⟩
    simp only [toAPIMaintenanceWindow]
    rw [if_neg (not_lt.mpr hstart), if_pos hend]

theorem eligible_iff :
    tables.Eligible now id instanceId
      ↔ ∃ row, tables.windows.lookup id = some row ∧ row.InEffect now
        ∧ (id, instanceId) ∈ tables.scopes := by
  constructor
  · rintro ⟨window, hwindow, rfl, hcovers⟩
    obtain ⟨⟨id, row⟩, hlisted, rfl⟩ := List.mem_map.mp hwindow
    obtain ⟨hlookup, hscope, hdeleted⟩ := mem_listMaintenanceWindowsForInstance.mp hlisted
    refine ⟨row, hlookup, ⟨hdeleted, ?_⟩, hscope⟩
    simpa [MaintenanceWindow.covers, hdeleted] using hcovers
  · rintro ⟨row, hlookup, ⟨hdeleted, hstart, hend⟩, hscope⟩
    have hlisted : (id, row) ∈ tables.listMaintenanceWindowsForInstance instanceId :=
      mem_listMaintenanceWindowsForInstance.mpr ⟨hlookup, hscope, hdeleted⟩
    refine ⟨_, List.mem_map_of_mem hlisted, rfl, ?_⟩
    simp [MaintenanceWindow.covers, hstart, hend, hdeleted]

theorem endMaintenanceWindow_of_row {row : MaintenanceWindowRow}
    (h : tables.getMaintenanceWindow id = some row) :
    (tables.endMaintenanceWindow now actor id).2.succeeded = true
      ↔ row.startsAt < timestamptz now ∧ timestamptz now < row.endsAt := by
  unfold endMaintenanceWindow
  rw [h]
  dsimp only
  split_ifs with hguard
  · refine iff_of_false (by simp [MaintenanceResponse.succeeded]) fun hbounds => ?_
    simp only [Bool.not_eq_true', Bool.and_eq_false_iff, decide_eq_false_iff_not] at hguard
    omega
  · simp only [Bool.not_eq_true', Bool.not_eq_false, Bool.and_eq_true, decide_eq_true_iff] at hguard
    cases hwrite : MaintenanceWindowColumns.write _ with
    | none =>
      refine iff_of_false (by simp [MaintenanceResponse.succeeded]) fun hbounds => ?_
      obtain ⟨-, hreason, hpair⟩ := row.checks
      refine MaintenanceWindowColumns.write_eq_none.mp hwrite ⟨?_, hreason, ?_⟩
      · simp only [MaintenanceWindowColumns.stored, row.startsAt_stored]
        exact hbounds.1
      · simpa [MaintenanceWindowColumns.stored] using hpair
    | some row' =>
      obtain ⟨⟨hstart, -⟩, -⟩ := MaintenanceWindowColumns.write_eq_some.mp hwrite
      simp only [MaintenanceWindowColumns.stored, row.startsAt_stored] at hstart
      exact iff_of_true rfl ⟨hstart, hguard.2⟩

theorem endable_iff :
    tables.Endable now actor id
      ↔ ∃ row, tables.windows.lookup id = some row ∧ row.InEffect now
        ∧ timestamptz now ≠ row.startsAt := by
  unfold Endable
  cases hget : tables.getMaintenanceWindow id with
  | none =>
    refine iff_of_false ?_ ?_
    · simp [endMaintenanceWindow, hget, MaintenanceResponse.succeeded]
    · rintro ⟨row, hlookup, ⟨hdeleted, -⟩, -⟩
      rw [getMaintenanceWindow_eq_some.mpr ⟨hlookup, hdeleted⟩] at hget
      cases hget
  | some row =>
    obtain ⟨hlookup, hdeleted⟩ := getMaintenanceWindow_eq_some.mp hget
    have hstart := le_timestamptz_iff (t := now) row.startsAt_stored
    have hend := le_timestamptz_iff (t := now) row.endsAt_stored
    rw [endMaintenanceWindow_of_row hget]
    constructor
    · rintro ⟨hlt, hlt'⟩
      exact ⟨row, hlookup, ⟨hdeleted, by omega, by omega⟩, by omega⟩
    · rintro ⟨row', hlookup', ⟨-, hstart', hend'⟩, hne⟩
      cases hlookup.symm.trans hlookup'
      omega

inductive Wrote (tables : MaintenanceTables) (id : String) (P : MaintenanceWindowRow → Prop) :
    MaintenanceTables × MaintenanceResponse → Prop
  | refused {response : MaintenanceResponse} (h : response.succeeded = false) :
    Wrote tables id P (tables, response)
  | wrote {tables' : MaintenanceTables} {row : MaintenanceWindowRow}
    {response : MaintenanceResponse} (hrow : P row)
    (hwindows : tables'.windows = tables.windows.insert id row) (h : response.succeeded = true) :
    Wrote tables id P (tables', response)

theorem Wrote.lookup {P : MaintenanceWindowRow → Prop}
    {result : MaintenanceTables × MaintenanceResponse} (h : Wrote tables id P result)
    (hok : result.2.succeeded = true) :
    ∃ row, result.1.windows.lookup id = some row ∧ P row := by
  cases h with
  | refused hfailed =>
    rw [hfailed] at hok
    cases hok
  | @wrote tables' row response hrow hwindows =>
    exact ⟨row, by rw [hwindows]; exact AList.lookup_insert _, hrow⟩

theorem createMaintenanceWindow_wrote (input : Option MaintenanceWindowInput) :
    Wrote tables id (fun _ => id ∉ tables.windows)
      (tables.createMaintenanceWindow now actor id input) := by
  unfold createMaintenanceWindow
  split
  · exact .refused rfl
  · split_ifs with hexist hid
    · exact .refused rfl
    · exact .refused rfl
    · split
      · exact .refused rfl
      · exact .wrote hid rfl rfl

theorem updateMaintenanceWindow_wrote (input : Option MaintenanceWindowInput) :
    Wrote tables id (fun _ => (tables.getMaintenanceWindow id).isSome)
      (tables.updateMaintenanceWindow now actor id input) := by
  unfold updateMaintenanceWindow
  split
  · exact .refused rfl
  · split_ifs with hexist
    · exact .refused rfl
    · split
      · exact .refused rfl
      · rename_i row hrow
        split_ifs with hended
        · exact .refused rfl
        · split
          · exact .refused rfl
          · exact .wrote (by rw [hrow]; rfl) rfl rfl

theorem endMaintenanceWindow_wrote :
    Wrote tables id
      (fun row' => row'.endsAt = timestamptz now
        ∧ ∃ row, tables.getMaintenanceWindow id = some row ∧ timestamptz now < row.endsAt)
      (tables.endMaintenanceWindow now actor id) := by
  unfold endMaintenanceWindow
  split
  · exact .refused rfl
  · rename_i row hrow
    split_ifs with hguard
    · exact .refused rfl
    · split
      · exact .refused rfl
      · rename_i row' hwrite
        obtain ⟨-, hcolumns⟩ := MaintenanceWindowColumns.write_eq_some.mp hwrite
        simp only [Bool.not_eq_true', Bool.not_eq_false, Bool.and_eq_true, decide_eq_true_iff]
          at hguard
        have hend := congrArg MaintenanceWindowColumns.endsAt hcolumns
        exact .wrote ⟨hend, row, hrow, hguard.2⟩ rfl rfl

theorem deleteMaintenanceWindow_wrote :
    Wrote tables id (fun row' => row'.deletedAt.isSome)
      (tables.deleteMaintenanceWindow now actor id) := by
  unfold deleteMaintenanceWindow
  split
  · exact .refused rfl
  · split
    · exact .refused rfl
    · rename_i row' hwrite
      obtain ⟨-, hcolumns⟩ := MaintenanceWindowColumns.write_eq_some.mp hwrite
      refine .wrote ?_ rfl rfl
      rw [congrArg MaintenanceWindowColumns.deletedAt hcolumns]
      rfl

/-- The window has been deleted, or it ends at the instant at the latest. -/
def Over (id : String) (instant : ℤ) (tables : MaintenanceTables) : Prop :=
  ∃ row, tables.windows.lookup id = some row ∧ (row.deletedAt.isSome ∨ row.endsAt ≤ instant)

def Edits (id : String) (tables : MaintenanceTables) (action : MaintenanceAction) : Prop :=
  ∃ now actor input, action = .serve now actor (.updateMaintenanceWindow id input)
    ∧ (tables.updateMaintenanceWindow now actor id input).2.succeeded = true

theorem Over.endsAt_le {instant : ℤ} (hover : Over id instant tables) {row : MaintenanceWindowRow}
    (hget : tables.getMaintenanceWindow id = some row) : row.endsAt ≤ instant := by
  obtain ⟨row', hlookup', hrow⟩ := hover
  obtain ⟨hlookup, hdeleted⟩ := getMaintenanceWindow_eq_some.mp hget
  cases hlookup.symm.trans hlookup'
  rcases hrow with hrow | hrow
  · rw [Option.isNone_iff_eq_none.mp hdeleted] at hrow
    cases hrow
  · exact hrow

theorem Over.of_wrote {instant : ℤ} {id' : String} {P : MaintenanceWindowRow → Prop}
    {result : MaintenanceTables × MaintenanceResponse} (hover : Over id instant tables)
    (h : Wrote tables id' P result)
    (hsame : ∀ row, P row → id' = id → result.2.succeeded = true →
      row.deletedAt.isSome ∨ row.endsAt ≤ instant) :
    Over id instant result.1 := by
  cases h with
  | refused => exact hover
  | @wrote tables' row' response hrow hwindows hresponse =>
    obtain ⟨row, hlookup, hrow'⟩ := hover
    unfold Over
    rw [hwindows]
    by_cases hid : id' = id
    · subst hid
      exact ⟨row', AList.lookup_insert _, hsame row' hrow rfl hresponse⟩
    · rw [AList.lookup_insert_ne (Ne.symm hid)]
      exact ⟨row, hlookup, hrow'⟩

theorem Over.step {instant : ℤ} {action : MaintenanceAction} {tables' : MaintenanceTables}
    (hover : Over id instant tables) (hstep : tables.step action = some tables')
    (hedit : ¬ Edits id tables action) : Over id instant tables' := by
  cases action with
  | createInstance | deleteInstance =>
    cases hstep
    exact hover
  | serve now actor request =>
    cases hstep
    cases request with
    | createMaintenanceWindow id' input =>
      refine hover.of_wrote (createMaintenanceWindow_wrote input) fun _ hnew hid _ => ?_
      obtain ⟨row, hlookup, -⟩ := hover
      subst hid
      exact absurd (AList.lookup_isSome.mp (by rw [hlookup]; rfl)) hnew
    | updateMaintenanceWindow id' input =>
      refine hover.of_wrote (updateMaintenanceWindow_wrote input) fun _ _ hid hok => ?_
      subst hid
      exact absurd ⟨now, actor, input, rfl, hok⟩ hedit
    | endMaintenanceWindow id' =>
      refine hover.of_wrote endMaintenanceWindow_wrote ?_
      rintro row' ⟨hend, found, hfound, hlt⟩ rfl -
      have hle := hover.endsAt_le hfound
      exact .inr (by omega)
    | deleteMaintenanceWindow id' =>
      exact hover.of_wrote deleteMaintenanceWindow_wrote fun row' hrow' _ _ => .inl hrow'

theorem Over.mono {instant instant' : ℤ} (h : Over id instant tables)
    (hle : instant ≤ instant') : Over id instant' tables := by
  obtain ⟨row, hlookup, hrow⟩ := h
  exact ⟨row, hlookup, hrow.imp_right hle.trans'⟩

theorem Over.not_inEffect {instant : ℤ} (hover : Over id instant tables)
    {row : MaintenanceWindowRow} (hlookup : tables.windows.lookup id = some row) :
    ¬ row.InEffect instant := by
  rintro ⟨hdeleted, -, hend⟩
  exact hend.not_ge (hover.endsAt_le (getMaintenanceWindow_eq_some.mpr ⟨hlookup, hdeleted⟩))

theorem Over.after {instant : ℤ} (hover : Over id instant tables)
    {actions : List MaintenanceAction} {tables' : MaintenanceTables}
    (hedits : Machine.Along MaintenanceTables.step
      (fun tables action _ => ¬ Edits id tables action) tables actions)
    (hrun : Machine.run MaintenanceTables.step tables actions = some tables') :
    Over id instant tables' :=
  Machine.Along.run_invariant (fun _ _ _ hover hstep hedit => hover.step hstep hedit) hover hedits
    hrun

theorem over_of_ended (h : (tables.endMaintenanceWindow now actor id).2.succeeded = true) :
    Over id now (tables.endMaintenanceWindow now actor id).1 := by
  obtain ⟨row, hlookup, hend, -⟩ := endMaintenanceWindow_wrote.lookup h
  exact ⟨row, hlookup, .inr (hend.trans_le (timestamptz_le now))⟩

theorem over_of_deleted (h : (tables.deleteMaintenanceWindow now actor id).2.succeeded = true)
    (instant : ℤ) : Over id instant (tables.deleteMaintenanceWindow now actor id).1 := by
  obtain ⟨row, hlookup, hdeleted⟩ := deleteMaintenanceWindow_wrote.lookup h
  exact ⟨row, hlookup, .inl hdeleted⟩

theorem nodup_scopesOf : ((tables.scopesOf instanceId).map MaintenanceWindow.id).Nodup := by
  unfold scopesOf maintenanceWindowScopes listMaintenanceWindowsForInstance
  rw [List.map_map]
  refine ((List.perm_insertionSort _ _).map _).nodup_iff.mpr ?_
  rw [List.map_map]
  exact tables.windows.keys_nodup.sublist (List.filter_sublist.map Sigma.fst)

def maintenanceWindows (tables : MaintenanceTables) : List MaintenanceWindow :=
  tables.windows.entries.map fun entry =>
    { id := entry.1, instanceIds := tables.listMaintenanceWindowInstances entry.1
      startsAt := entry.2.startsAt, endsAt := entry.2.endsAt
      deleted := entry.2.deletedAt.isSome }

theorem findActiveMaintenanceWindow_eq :
    findActiveMaintenanceWindow tables.maintenanceWindows instanceId now
      = (activeMaintenanceWindow instanceId now (tables.scopesOf instanceId)).map
        MaintenanceWindow.id := by
  unfold findActiveMaintenanceWindow
  refine congrArg (Option.map _) (activeMaintenanceWindow_perm nodup_scopesOf ?_)
  unfold scopesOf maintenanceWindowScopes listMaintenanceWindowsForInstance maintenanceWindows
  refine List.Perm.trans (.of_eq ?_) ((List.perm_insertionSort _ _).symm.map _)
  rw [List.filter_map, List.map_map, List.map_map]
  refine congrArg (List.map _) (List.filter_congr fun entry _ => ?_)
  rw [Bool.eq_iff_iff]
  simp [mem_listMaintenanceWindowInstances]

/-- The three views agree unless the request comes in the very microsecond the window starts. -/
theorem maintenance_views_agree_iff (tables : MaintenanceTables) (now : ℤ) (actor : Accounts.UserId)
    {id : String} {row : MaintenanceWindowRow} (hrow : tables.windows.lookup id = some row)
    {instanceId : InstanceId} (hscope : (id, instanceId) ∈ tables.scopes) :
    (∀ windows, windows.Perm (tables.scopesOf instanceId) → ∀ window,
      activeMaintenanceWindow instanceId now windows = some window
        ↔ (window ∈ tables.scopesOf instanceId ∧ window.covers instanceId now = true)
          ∧ ∀ other ∈ tables.scopesOf instanceId, other.covers instanceId now = true →
            other ≠ window → window.endsAt < other.endsAt
              ∨ window.endsAt = other.endsAt ∧ window.id < other.id)
    ∧ (∀ request instant,
      request = .endMaintenanceWindow id ∧ now ≤ instant ∨ request = .deleteMaintenanceWindow id →
      (tables.serve now actor request).2.succeeded = true →
      ∀ actions tables',
        Machine.Along step (fun tables action _ => ¬ Edits id tables action)
          (tables.serve now actor request).1 actions →
        Machine.run step (tables.serve now actor request).1 actions = some tables' →
        ∀ instanceId', ¬ tables'.ReportedActive instant id instanceId'
          ∧ ¬ tables'.Eligible instant id instanceId')
    ∧ ((tables.ReportedActive now id instanceId ↔ tables.Eligible now id instanceId)
        ∧ (tables.Eligible now id instanceId ↔ tables.Endable now actor id)
      ↔ row.deletedAt.isSome ∨ timestamptz now ≠ row.startsAt) := by
  refine ⟨fun windows hperm window => ?_, fun request instant hrequest hok actions tables' hedits
    hrun instanceId' => ?_, ?_⟩
  · rw [activeMaintenanceWindow_perm nodup_scopesOf hperm,
      activeMaintenanceWindow_eq_some_iff nodup_scopesOf]
  · have hover : Over id instant tables' := by
      refine Over.after ?_ hedits hrun
      rcases hrequest with ⟨rfl, hle⟩ | rfl
      · exact (over_of_ended hok).mono hle
      · exact over_of_deleted hok instant
    rw [reportedActive_iff, eligible_iff, and_self]
    rintro ⟨row', hlookup, heffect, -⟩
    exact hover.not_inEffect hlookup heffect
  · rw [reportedActive_iff, eligible_iff, endable_iff, hrow]
    simp only [Option.some.injEq, exists_eq_left', hscope, and_true, true_and]
    cases hdeleted : row.deletedAt with
    | none =>
      simp only [Option.isSome_none, Bool.false_eq_true, false_or]
      refine ⟨fun hagree h => ?_, fun hne => (and_iff_left hne).symm⟩
      exact (hagree.mp (MaintenanceWindowRow.inEffect_start (by rw [hdeleted]; rfl) h)).2 h
    | some deletedAt =>
      have heffect : ¬ row.InEffect now := fun h => by
        have := h.1
        rw [hdeleted] at this
        cases this
      exact iff_of_true (iff_of_false heffect fun h => heffect h.1) (.inl rfl)

section Example

def firstHour : MaintenanceTables :=
  { instances := ["db"]
    windows := (∅ : AList fun _ : String => MaintenanceWindowRow).insert "upgrade"
      { startsAt := 0, endsAt := 3600 * second, reason := "upgrade", createdBy := 1
        createdAt := -1000, updatedAt := -1000, updatedBy := 1
        checks := by decide, startsAt_stored := by decide, endsAt_stored := by decide }
    scopes := [("upgrade", "db")] }

theorem maintenance_views_agree_second :
    firstHour.Eligible second "upgrade" "db" ∧ firstHour.Endable second 1 "upgrade" := by
  obtain ⟨-, -, hviews⟩ := maintenance_views_agree_iff firstHour second 1
    (AList.lookup_insert _) (List.mem_singleton_self ("upgrade", "db"))
  have heligible : firstHour.Eligible second "upgrade" "db" :=
    ⟨_, List.mem_singleton_self _, rfl, by decide⟩
  exact ⟨heligible, (hviews.mpr (.inr (by decide))).2.mp heligible⟩

/-- In its first microsecond the window is reported active and chosen, and a request to end it
fails. -/
theorem not_endable_at_start :
    firstHour.ReportedActive 0 "upgrade" "db" ∧ firstHour.Eligible 0 "upgrade" "db"
      ∧ (firstHour.endMaintenanceWindow 0 1 "upgrade").2 = .failed
      ∧ (firstHour.endMaintenanceWindow 999 1 "upgrade").2 = .failed := by
  refine ⟨⟨_, List.mem_singleton_self _, rfl, by decide, by decide⟩,
    ⟨_, List.mem_singleton_self _, rfl, by decide⟩, ?_, ?_⟩
  · decide +kernel
  · decide +kernel

end Example

end MaintenanceTables

end DbsMonitor
