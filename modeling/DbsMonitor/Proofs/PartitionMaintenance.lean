import Mathlib.Data.Int.Range
import Mathlib.Data.List.Range
import Mathlib.Tactic.IntervalCases
import Mathlib.Tactic.Linarith
import DbsMonitor.Partitions

/-!
# The partitions of a span

While the span is a whole number of seconds, the bounds and the name of a partition say where it
starts, and while thirty spans fit in a duration, the expired ones are those that end before the
cutoff. For any other span one of these fails at some time.
-/

namespace DbsMonitor.Partitions

open Calendar Machine

theorem partitionBoundary_eq {value span : ℤ} (h : 0 ≤ value) (h' : value < 2 ^ 63) :
    partitionBoundary value span = value / span * span := by
  rw [partitionBoundary, unixNano, int64_eq (by omega) h', Int.tdiv_eq_ediv_of_nonneg h]

theorem boundText_le (bound : ℤ) : boundText bound ≤ bound := by
  unfold boundText second
  omega

theorem boundText_eq {bound : ℤ} (h : bound % second = 0) : boundText bound = bound := by
  unfold boundText second at *
  omega

theorem boundText_lt {bound : ℤ} (h : bound % second ≠ 0) : boundText bound < bound := by
  unfold boundText second at *
  omega

theorem mul_emod_second {span : ℤ} (h : span % second = 0) (k : ℤ) : k * span % second = 0 :=
  Int.emod_eq_zero_of_dvd (Dvd.dvd.mul_left (Int.dvd_of_emod_eq_zero h) k)

/-- The first instant whose year may need more than four digits is far from any boundary. -/
def nameLimit : ℤ := 2900000 * 86400 * second

theorem partitionTime_partitionName {start span : ℤ} (h : 0 ≤ start) (h' : start < nameLimit)
    (hday : span = defaultPartitionSpan → start % defaultPartitionSpan = 0) :
    partitionTime (partitionName start span) = some (boundText start) := by
  have hseconds : 0 ≤ start / second ∧ start / second < 2900000 * 86400 := by
    unfold nameLimit second at *
    omega
  have hread : ∀ text : List Char,
      partitionTime (String.ofList (namePrefix ++ text))
        = ((parse dateLayout text).or (parse timeLayout text)).map (· * second) := by
    intro text
    simp only [partitionTime, String.toList_ofList, List.prefix_append, if_true, List.drop_left]
  rw [partitionName, hread]
  split_ifs with hspan
  · have hzero := hday hspan
    unfold defaultPartitionSpan second at hzero
    rw [parse_format hseconds.1 hseconds.2]
    · rfl
    · simp only [dateLayout, List.foldl_cons, List.foldl_nil, Verb.copy, Time.ofSeconds, second,
        Time.mk.injEq, true_and]
      omega
  · have hlong : format timeLayout (Time.ofSeconds (start / second))
        = format dateLayout (Time.ofSeconds (start / second)) ++ '_' ::
          format [.hour, .minute, .second] (Time.ofSeconds (start / second)) := by
      simp [format, timeLayout, dateLayout, Verb.format]
    have htime : parse timeLayout (format timeLayout (Time.ofSeconds (start / second)))
        = some (start / second) := parse_format hseconds.1 hseconds.2 rfl
    have hdate : parse dateLayout (format timeLayout (Time.ofSeconds (start / second))) = none := by
      rw [hlong]
      exact parse_format_append (Time.inRange_ofSeconds hseconds.1 hseconds.2) _ _ _
    rw [htime, hdate]
    rfl

def retentionCutoff (span now : ℤ) : ℤ := now / span * span - partitionRetention * span

def Partition.Contains (partition : Partition) (x : ℤ) : Prop :=
  partition.lower ≤ x ∧ x < partition.upper

structure Ensures (span from_ through : ℤ) (table table' : List Partition) : Prop where
  succeeds : (ensurePartitionRange span from_ through table).2 = none
  disjoint : (ensured span from_ through).Pairwise fun p q => p.upper ≤ q.lower
  contiguous : (ensured span from_ through).IsChain fun p q => p.upper = q.lower
  names : ((ensured span from_ through).map Partition.name).Nodup
  covers : ∀ x, from_ ≤ x → x ≤ through + partitionPrebuild * span →
    ∃ p ∈ ensured span from_ through, p.Contains x
  created : ∀ p ∈ ensured span from_ through,
    ∃ q ∈ table', q.name = p.name ∧ q.lower = p.lower ∧ q.upper = p.upper

structure DropsExpired (span now : ℤ) (table table' : List Partition) : Prop where
  expired : table' = table.filter fun p => ¬ p.upper ≤ retentionCutoff span now
  retained : ∀ p ∈ table, ∀ x ∈ p.samples, retentionCutoff span now ≤ x →
    ∃ q ∈ table', x ∈ q.samples

structure Separate (table : List Partition) : Prop where
  disjoint : table.Pairwise fun p q => p.upper ≤ q.lower ∨ q.upper ≤ p.lower
  names : (table.map Partition.name).Nodup

def Maintained (span : ℤ) (table : List Partition) (a : Action) (table' : List Partition) : Prop :=
  Separate table' ∧
  match a with
  | .ensure from_ through => Ensures span from_ through table table'
  | .drop now => DropsExpired span now table table'
  | .insert _ => True

def Action.InRange : Action → Prop
  | .ensure from_ through => (0 ≤ from_ ∧ from_ < 2 ^ 63) ∧ 0 ≤ through ∧ through < 2 ^ 63
  | .drop now => 0 ≤ now ∧ now < 2 ^ 63
  | .insert _ => True

def cell (span k : ℤ) : Partition :=
  { name := partitionName (k * span) span, lower := boundText (k * span)
    upper := boundText ((k + 1) * span) }

theorem range_increasing (m n : ℤ) : (Int.range m n).Pairwise (· < ·) := by
  rw [Int.range, List.pairwise_map]
  exact List.pairwise_lt_range.imp fun hlt => by omega

theorem range_consecutive (m n : ℤ) : (Int.range m n).IsChain fun j k => k = j + 1 := by
  rw [Int.range, List.isChain_map, List.isChain_range]
  intro i hi
  push_cast
  ring

theorem ensured_eq {span from_ through : ℤ} (hspan : 0 < span) (hspan' : 7 * span < 2 ^ 63)
    (h : (Action.ensure from_ through).InRange) :
    ensured span from_ through
      = (Int.range (from_ / span) (through / span + 8)).map (cell span) := by
  obtain ⟨⟨hfrom, hfrom'⟩, hthrough, hthrough'⟩ := h
  have hcount : (through / span * span + 7 * span - from_ / span * span) / span + 1
      = through / span + 8 - from_ / span := by
    have hfactor : through / span * span + 7 * span - from_ / span * span
        = (through / span + 7 - from_ / span) * span := by ring
    rw [hfactor, Int.mul_ediv_cancel _ hspan.ne']
    ring
  simp only [ensured, partitionBoundary_eq hfrom hfrom', partitionBoundary_eq hthrough hthrough',
    partitionPrebuild, int64_eq (n := 7 * span) (by omega) hspan', boundaries, hcount,
    Int.range, List.map_map]
  refine List.map_congr_left fun i _ => ?_
  have hstart : from_ / span * span + (i : ℤ) * span = (from_ / span + i) * span := by ring
  have hstop : (from_ / span + i) * span + span = (from_ / span + i + 1) * span := by ring
  simp only [Function.comp_apply, cell, hstart, hstop]

structure Exact (span : ℤ) : Prop where
  accepted : second ≤ span
  whole : span % second = 0
  fits : 30 * span < 2 ^ 63

section Exact

variable {span : ℤ} (hspan : Exact span)

include hspan

theorem Exact.pos : 0 < span := by
  have := hspan.accepted
  unfold second at this
  omega

theorem Exact.cell_lower (k : ℤ) : (cell span k).lower = k * span :=
  boundText_eq (mul_emod_second hspan.whole k)

theorem Exact.cell_upper (k : ℤ) : (cell span k).upper = (k + 1) * span :=
  boundText_eq (mul_emod_second hspan.whole (k + 1))

theorem Exact.cell_time {k : ℤ} (hk : 0 ≤ k) (hlimit : k * span < nameLimit) :
    partitionTime (cell span k).name = some (k * span) := by
  rw [cell, partitionTime_partitionName (mul_nonneg hk hspan.pos.le) hlimit,
    boundText_eq (mul_emod_second hspan.whole k)]
  rintro rfl
  exact Int.mul_emod_left k _

theorem Exact.cell_name_inj {j k : ℤ} (hj : 0 ≤ j) (hj' : j * span < nameLimit) (hk : 0 ≤ k)
    (hk' : k * span < nameLimit) (h : (cell span j).name = (cell span k).name) : j = k := by
  have htime : some (j * span) = some (k * span) := by
    rw [← hspan.cell_time hj hj', ← hspan.cell_time hk hk', h]
  exact mul_right_cancel₀ hspan.pos.ne' (Option.some.inj htime)

end Exact

def OnGrid (span : ℤ) (p : Partition) : Prop :=
  ∃ k, 0 ≤ k ∧ k * span < nameLimit ∧ p.name = (cell span k).name ∧ p.lower = k * span
    ∧ p.upper = (k + 1) * span ∧ ∀ x ∈ p.samples, p.Contains x

structure TableInv (span : ℤ) (table : List Partition) : Prop where
  grid : ∀ p ∈ table, OnGrid span p
  names : (table.map Partition.name).Nodup

section Table

variable {span : ℤ} (hspan : Exact span) {table : List Partition}

include hspan

theorem TableInv.separate (h : TableInv span table) : Separate table := by
  refine ⟨?_, h.names⟩
  have hnames := List.pairwise_map.mp h.names
  refine hnames.imp_of_mem fun {p q} hp hq hne => ?_
  obtain ⟨j, hj, hj', hpname, hplower, hpupper, -⟩ := h.grid p hp
  obtain ⟨k, hk, hk', hqname, hqlower, hqupper, -⟩ := h.grid q hq
  have hjk : j ≠ k := by
    rintro rfl
    exact hne (hpname.trans hqname.symm)
  rw [hplower, hpupper, hqlower, hqupper]
  rcases lt_or_gt_of_ne hjk with hlt | hlt
  · exact .inl (mul_le_mul_of_nonneg_right hlt hspan.pos.le)
  · exact .inr (mul_le_mul_of_nonneg_right hlt hspan.pos.le)

theorem TableInv.create (h : TableInv span table) {k : ℤ} (hk : 0 ≤ k)
    (hlimit : k * span < nameLimit) :
    ∃ table', create (cell span k) table = .ok table' ∧ TableInv span table' ∧ table ⊆ table'
      ∧ ∃ q ∈ table', q.name = (cell span k).name ∧ q.lower = (cell span k).lower
        ∧ q.upper = (cell span k).upper := by
  have hlower := hspan.cell_lower k
  have hupper := hspan.cell_upper k
  unfold Partitions.create
  split_ifs with hname hempty hoverlap
  · obtain ⟨q, hq, hqname⟩ := List.mem_map.mp hname
    obtain ⟨j, hj, hj', hjname, hqlower, hqupper, -⟩ := h.grid q hq
    obtain rfl := hspan.cell_name_inj hj hj' hk hlimit (hjname.symm.trans hqname)
    exact ⟨table, rfl, h, List.Subset.refl _, q, hq, hqname, hqlower.trans hlower.symm,
      hqupper.trans hupper.symm⟩
  · rw [hlower, hupper] at hempty
    linarith [hspan.pos]
  · obtain ⟨q, hq, hlt, hlt'⟩ := hoverlap
    obtain ⟨j, hj, hj', hjname, hqlower, hqupper, -⟩ := h.grid q hq
    rw [hqlower, hupper] at hlt
    rw [hlower, hqupper] at hlt'
    have hjk : j < k + 1 := lt_of_mul_lt_mul_right hlt hspan.pos.le
    have hkj : k < j + 1 := lt_of_mul_lt_mul_right hlt' hspan.pos.le
    obtain rfl : j = k := by omega
    exact absurd (List.mem_map.mpr ⟨q, hq, hjname⟩) hname
  · refine ⟨table ++ [cell span k], rfl, ⟨?_, ?_⟩, List.subset_append_left _ _, cell span k, ?_⟩
    · intro p hp
      rcases List.mem_append.mp hp with hp | hp
      · exact h.grid p hp
      · obtain rfl := List.mem_singleton.mp hp
        exact ⟨k, hk, hlimit, rfl, hlower, hupper, fun x hx => by cases hx⟩
    · rw [List.map_append, List.nodup_append]
      refine ⟨h.names, List.pairwise_singleton _ _, ?_⟩
      intro name hin other hother
      obtain rfl := List.mem_singleton.mp hother
      rintro rfl
      exact hname hin
    · exact ⟨List.mem_append_right _ (List.mem_singleton_self _), rfl, rfl, rfl⟩

theorem TableInv.createEach {ks : List ℤ} (hks : ∀ k ∈ ks, 0 ≤ k ∧ k * span < nameLimit) :
    ∀ {table : List Partition}, TableInv span table →
      ∃ table', createEach (ks.map (cell span)) table = (table', none) ∧ TableInv span table'
        ∧ table ⊆ table' ∧ ∀ k ∈ ks, ∃ q ∈ table', q.name = (cell span k).name
          ∧ q.lower = (cell span k).lower ∧ q.upper = (cell span k).upper := by
  induction ks with
  | nil => exact fun {table} h => ⟨table, rfl, h, List.Subset.refl _, fun k hk => by cases hk⟩
  | cons k ks ih =>
    intro table h
    obtain ⟨hk, hlimit⟩ := hks k List.mem_cons_self
    obtain ⟨table₁, hcreate, h₁, hsub₁, q, hq, hqcell⟩ := h.create hspan hk hlimit
    obtain ⟨table₂, hrest, h₂, hsub₂, hcells⟩ :=
      ih (fun k hk => hks k (List.mem_cons_of_mem _ hk)) h₁
    refine ⟨table₂, ?_, h₂, List.Subset.trans hsub₁ hsub₂, ?_⟩
    · rw [List.map_cons, Partitions.createEach, hcreate]
      exact hrest
    · intro k' hk'
      rcases List.mem_cons.mp hk' with rfl | hk'
      · exact ⟨q, hsub₂ hq, hqcell⟩
      · exact hcells k' hk'

omit hspan in
theorem mem_cells {from_ through k : ℤ} :
    k ∈ Int.range (from_ / span) (through / span + 8)
      ↔ from_ / span ≤ k ∧ k ≤ through / span + 7 := by
  rw [Int.mem_range_iff]
  omega

theorem cells_bounds {from_ through : ℤ} (hrange : (Action.ensure from_ through).InRange) :
    ∀ k ∈ Int.range (from_ / span) (through / span + 8), 0 ≤ k ∧ k * span < nameLimit := by
  have hpos := hspan.pos
  have hfits := hspan.fits
  obtain ⟨⟨hfrom, -⟩, -, hthrough'⟩ := hrange
  have hfirst : 0 ≤ from_ / span := Int.ediv_nonneg hfrom hpos.le
  have hlast : through / span * span ≤ through := Int.ediv_mul_le _ hpos.ne'
  intro k hk
  obtain ⟨hlow, hhigh⟩ := mem_cells.mp hk
  refine ⟨hfirst.trans hlow, ?_⟩
  have hle : k * span ≤ (through / span + 7) * span := mul_le_mul_of_nonneg_right hhigh hpos.le
  unfold nameLimit second
  linarith

theorem cells_cover {from_ through x : ℤ} (hx : from_ ≤ x) (hx' : x ≤ through + 7 * span) :
    x / span ∈ Int.range (from_ / span) (through / span + 8)
      ∧ (cell span (x / span)).Contains x := by
  have hpos := hspan.pos
  have hhigh : x / span ≤ through / span + 7 := by
    rw [← Int.add_mul_ediv_right _ _ hpos.ne']
    exact Int.ediv_le_ediv hpos hx'
  refine ⟨mem_cells.mpr ⟨Int.ediv_le_ediv hpos hx, hhigh⟩, ?_⟩
  rw [Partition.Contains, hspan.cell_lower, hspan.cell_upper]
  exact ⟨Int.ediv_mul_le _ hpos.ne', Int.lt_ediv_add_one_mul_self _ hpos⟩

theorem TableInv.ensure (h : TableInv span table) {from_ through : ℤ}
    (hrange : (Action.ensure from_ through).InRange) :
    Ensures span from_ through table (ensurePartitionRange span from_ through table).1
      ∧ TableInv span (ensurePartitionRange span from_ through table).1 := by
  have hpos := hspan.pos
  have hfits := hspan.fits
  have hensured := ensured_eq hpos (by omega) hrange
  have hbounds := cells_bounds hspan hrange
  obtain ⟨table', hcreate, htable', -, hcells⟩ := h.createEach hspan hbounds
  have hrun : ensurePartitionRange span from_ through table = (table', none) := by
    rw [ensurePartitionRange, if_neg (not_lt.mpr hspan.accepted), hensured, hcreate]
  rw [hrun]
  refine ⟨⟨by rw [hrun], ?_, ?_, ?_, ?_, ?_⟩, htable'⟩
  · rw [hensured, List.pairwise_map]
    refine (range_increasing _ _).imp fun {j k} hlt => ?_
    rw [hspan.cell_upper, hspan.cell_lower]
    exact mul_le_mul_of_nonneg_right hlt hpos.le
  · rw [hensured, List.isChain_map]
    refine (range_consecutive _ _).imp fun j k hnext => ?_
    rw [hspan.cell_upper, hspan.cell_lower, hnext]
  · rw [hensured, List.map_map]
    refine List.pairwise_map.mpr ((range_increasing _ _).imp_of_mem ?_)
    intro j k hj hk hlt hname
    obtain ⟨hj, hj'⟩ := hbounds j hj
    obtain ⟨hk, hk'⟩ := hbounds k hk
    exact hlt.ne (hspan.cell_name_inj hj hj' hk hk' hname)
  · intro x hx hx'
    obtain ⟨hcell, hcontains⟩ := cells_cover hspan hx hx'
    rw [hensured]
    exact ⟨_, List.mem_map_of_mem hcell, hcontains⟩
  · intro p hp
    rw [hensured] at hp
    obtain ⟨k, hk, rfl⟩ := List.mem_map.mp hp
    exact hcells k hk

theorem TableInv.drop (h : TableInv span table) {now : ℤ} (hrange : (Action.drop now).InRange) :
    DropsExpired span now table (dropExpiredPartitionsWithSpan span now table).1
      ∧ TableInv span (dropExpiredPartitionsWithSpan span now table).1 := by
  have hpos := hspan.pos
  have hfits := hspan.fits
  obtain ⟨hnow, hnow'⟩ := hrange
  have hcutoff : partitionBoundary now span + int64 (-partitionRetention * span)
      = retentionCutoff span now := by
    rw [partitionBoundary_eq hnow hnow', int64_eq, retentionCutoff, partitionRetention]
    · ring
    · unfold partitionRetention
      omega
    · unfold partitionRetention
      omega
  have hfilter : (dropExpiredPartitionsWithSpan span now table).1
      = table.filter fun p => ¬ p.upper ≤ retentionCutoff span now := by
    rw [dropExpiredPartitionsWithSpan, if_neg (not_lt.mpr hspan.accepted), hcutoff]
    refine List.filter_congr fun p hp => ?_
    obtain ⟨k, hk, hlimit, hname, -, hupper, -⟩ := h.grid p hp
    have hcell : k * span < retentionCutoff span now ↔ p.upper ≤ retentionCutoff span now := by
      have hgrid : retentionCutoff span now = (now / span - 30) * span := by
        unfold retentionCutoff partitionRetention
        ring
      rw [hupper, hgrid, mul_lt_mul_iff_left₀ hpos, mul_le_mul_iff_left₀ hpos]
      omega
    simp only [hname, hspan.cell_time hk hlimit, hcell, decide_not]
  rw [hfilter]
  refine ⟨⟨rfl, ?_⟩, ?_, ?_⟩
  · intro p hp x hx hretained
    obtain ⟨k, -, -, -, -, -, hsamples⟩ := h.grid p hp
    have hinside := hsamples x hx
    refine ⟨p, List.mem_filter.mpr ⟨hp, ?_⟩, hx⟩
    exact decide_eq_true (not_le.mpr (hretained.trans_lt hinside.2))
  · exact fun p hp => h.grid p (List.mem_of_mem_filter hp)
  · exact h.names.sublist (List.filter_sublist.map _)

omit hspan in
theorem TableInv.insert (h : TableInv span table) (x : ℤ) :
    TableInv span (table.map (·.insert x)) := by
  have hfields : ∀ p : Partition, (p.insert x).name = p.name ∧ (p.insert x).lower = p.lower
      ∧ (p.insert x).upper = p.upper := by
    intro p
    unfold Partition.insert
    split_ifs <;> exact ⟨rfl, rfl, rfl⟩
  refine ⟨fun q hq => ?_, ?_⟩
  · obtain ⟨p, hp, rfl⟩ := List.mem_map.mp hq
    obtain ⟨k, hk, hlimit, hname, hlower, hupper, hsamples⟩ := h.grid p hp
    obtain ⟨hname', hlower', hupper'⟩ := hfields p
    refine ⟨k, hk, hlimit, hname'.trans hname, hlower'.trans hlower, hupper'.trans hupper, ?_⟩
    intro y hy
    rw [Partition.Contains, hlower', hupper']
    unfold Partition.insert at hy
    split_ifs at hy with hinside
    · rcases List.mem_cons.mp hy with rfl | hy
      · exact hinside
      · exact hsamples y hy
    · exact hsamples y hy
  · have hnames : (table.map (·.insert x)).map Partition.name = table.map Partition.name := by
      rw [List.map_map]
      exact List.map_congr_left fun p _ => (hfields p).1
    rw [hnames]
    exact h.names

theorem TableInv.step (h : TableInv span table) {a : Action} {table' : List Partition}
    (hrange : a.InRange) (hstep : step span table a = some table') :
    Maintained span table a table' ∧ TableInv span table' := by
  cases a with
  | ensure from_ through =>
    cases hstep
    obtain ⟨hensures, hinv⟩ := h.ensure hspan hrange
    exact ⟨⟨hinv.separate hspan, hensures⟩, hinv⟩
  | drop now =>
    cases hstep
    obtain ⟨hdrops, hinv⟩ := h.drop hspan hrange
    exact ⟨⟨hinv.separate hspan, hdrops⟩, hinv⟩
  | insert x =>
    simp only [Partitions.step] at hstep
    split_ifs at hstep
    cases hstep
    have hinv := h.insert x
    exact ⟨⟨hinv.separate hspan, trivial⟩, hinv⟩

theorem maintained_of_exact {actions : List Action} (hrange : ∀ a ∈ actions, a.InRange) :
    ∀ {table : List Partition}, TableInv span table →
      Along (Partitions.step span) (Maintained span) table actions := by
  induction actions with
  | nil => exact fun _ => trivial
  | cons a actions ih =>
    intro table h table' hstep
    obtain ⟨hmaintained, h'⟩ := h.step hspan (hrange a List.mem_cons_self) hstep
    exact ⟨hmaintained, ih (fun b hb => hrange b (List.mem_cons_of_mem _ hb)) h'⟩

end Table

section Spans

variable {span : ℤ}

theorem upper_le_of_ensured (hspan : 0 < span) {from_ through : ℤ} {p : Partition}
    (hp : p ∈ ensured span from_ through) :
    p.upper ≤ boundText (partitionBoundary through span + int64 (partitionPrebuild * span)
      + span) := by
  simp only [ensured, boundaries, List.map_map, List.mem_map, List.mem_range,
    Function.comp_apply] at hp
  obtain ⟨i, hi, rfl⟩ := hp
  set start := partitionBoundary from_ span
  set stop := partitionBoundary through span + int64 (partitionPrebuild * span)
  have hle : (i : ℤ) * span ≤ (stop - start) / span * span :=
    mul_le_mul_of_nonneg_right (by omega) hspan.le
  have hmul : (stop - start) / span * span ≤ stop - start := Int.ediv_mul_le _ hspan.ne'
  have hbound : start + i * span + span ≤ stop + span := by linarith
  exact Int.mul_le_mul_of_nonneg_right
    (Int.ediv_le_ediv (by decide) hbound) (by decide)

theorem not_ensures (hspan : 0 < span) {from_ through : ℤ} {table table' : List Partition}
    (hfrom : from_ ≤ through)
    (hshort : boundText (partitionBoundary through span + int64 (partitionPrebuild * span) + span)
      ≤ through + partitionPrebuild * span) :
    ¬ Ensures span from_ through table table' := by
  intro h
  have hnonneg : 0 ≤ partitionPrebuild * span := mul_nonneg (by decide) hspan.le
  obtain ⟨p, hp, hcontains⟩ :=
    h.covers (through + partitionPrebuild * span) (by omega) le_rfl
  exact absurd hcontains.2 (not_lt.mpr ((upper_le_of_ensured hspan hp).trans hshort))

theorem not_ensures_late (hspan : 0 < span) (hspan' : span < 2 ^ 63) {from_ through : ℤ}
    {table table' : List Partition} (hfrom : from_ ≤ through) (hlate : 2 ^ 63 ≤ through) :
    ¬ Ensures span from_ through table table' := by
  refine not_ensures hspan hfrom ((boundText_le _).trans ?_)
  obtain ⟨-, -, hmod⟩ := int64_spec through
  obtain ⟨-, hlt, hmod'⟩ := int64_spec (partitionPrebuild * span)
  have hwrapped : int64 through ≤ through - 2 ^ 64 := by
    have := (int64_spec through).2.1
    omega
  have hboundary : partitionBoundary through span ≤ int64 through + span := by
    unfold partitionBoundary unixNano
    have hdiv := Int.tmod_add_tdiv_mul (int64 through) span
    have hrest := Int.lt_tmod_of_pos (int64 through) hspan
    omega
  unfold partitionPrebuild at *
  omega

variable (h : ∀ actions : List Action, (∀ a ∈ actions, a.InRange) →
  Along (step span) (Maintained span) [] actions)

include h

theorem ensures_of_maintained {through : ℤ} (hthrough : 0 ≤ through)
    (hthrough' : through < 2 ^ 63) :
    Ensures span through through [] (ensurePartitionRange span through through []).1 := by
  refine (h [.ensure through through] ?_ _ rfl).1.2
  intro a ha
  obtain rfl := List.mem_singleton.mp ha
  exact ⟨⟨hthrough, hthrough'⟩, hthrough, hthrough'⟩

theorem prebuild_fits (hspan : 0 < span) (hspan' : span < 2 ^ 63) : 7 * span < 2 ^ 63 := by
  by_contra hlong
  refine not_ensures hspan le_rfl ?_ (ensures_of_maintained h le_rfl (by decide))
  refine (boundText_le _).trans ?_
  obtain ⟨-, hlt, hmod⟩ := int64_spec (partitionPrebuild * span)
  rw [partitionBoundary_eq le_rfl (by decide), Int.zero_ediv]
  unfold partitionPrebuild at *
  omega

theorem span_whole (hspan : 0 < span) (hfits : 7 * span < 2 ^ 63) : span % second = 0 := by
  by_contra hfraction
  obtain ⟨k, hk, hk', hboundary⟩ : ∃ k : ℤ, 0 ≤ k ∧ k ≤ 1 ∧ (k + 8) * span % second ≠ 0 := by
    by_cases height : 8 * span % second = 0
    · refine ⟨1, by decide, le_rfl, ?_⟩
      unfold second at *
      omega
    · exact ⟨0, le_rfl, by decide, height⟩
  have hk'' : k * span ≤ 1 * span := mul_le_mul_of_nonneg_right hk' hspan.le
  have hnonneg : 0 ≤ k * span := mul_nonneg hk hspan.le
  have hthrough : 0 ≤ k * span + (span - 1) := by omega
  have hthrough' : k * span + (span - 1) < 2 ^ 63 := by omega
  have hdiv : (k * span + (span - 1)) / span = k := by
    rw [add_comm, Int.add_mul_ediv_right _ _ hspan.ne', Int.ediv_eq_zero_of_lt (by omega)
      (by omega), zero_add]
  refine not_ensures hspan le_rfl ?_ (ensures_of_maintained h hthrough hthrough')
  rw [partitionBoundary_eq hthrough hthrough', hdiv, partitionPrebuild,
    int64_eq (by omega) hfits]
  have hlast : k * span + 7 * span + span = (k + 8) * span := by ring
  rw [hlast]
  have hlt := boundText_lt hboundary
  have hexpand : (k + 8) * span = k * span + 8 * span := by ring
  omega

omit h in
theorem exists_wrapped_cutoff (hfits : 7 * span < 2 ^ 63) (hlong : 2 ^ 63 ≤ 30 * span) :
    ∃ now, 0 ≤ now ∧ now < 2 ^ 63 ∧ 0 < now / span * span + int64 (-partitionRetention * span) := by
  have hspan : 0 < span := by omega
  obtain ⟨hlow, hhigh, hmod⟩ := int64_spec (-partitionRetention * span)
  unfold partitionRetention at *
  by_cases hpositive : 0 < int64 (-30 * span)
  · exact ⟨0, le_rfl, by decide, by simpa using hpositive⟩
  · refine ⟨2 ^ 63 - 1, by decide, by decide, ?_⟩
    have hle : (2 ^ 63 - 1) / span * span ≤ 2 ^ 63 - 1 := Int.ediv_mul_le _ hspan.ne'
    have hlt := Int.lt_ediv_add_one_mul_self (2 ^ 63 - 1) hspan
    generalize hm : (2 ^ 63 - 1) / span = m at *
    have hm7 : 7 ≤ m := by
      rw [← hm, Int.le_ediv_iff_mul_le hspan]
      omega
    have hm30 : m < 30 := by
      rw [← hm, Int.ediv_lt_iff_lt_mul hspan]
      omega
    have hwrapped : int64 (-30 * span) = 2 ^ 64 - 30 * span
        ∨ int64 (-30 * span) = 2 ^ 65 - 30 * span := by omega
    rcases hwrapped with hwrapped | hwrapped <;> interval_cases m <;> omega

theorem retention_fits (hspan : second ≤ span) (hfits : 7 * span < 2 ^ 63) :
    30 * span < 2 ^ 63 := by
  by_contra hlong
  have hpos : 0 < span := lt_of_lt_of_le (by decide) hspan
  obtain ⟨now, hnow, hnow', hcutoff⟩ := exists_wrapped_cutoff hfits (not_lt.mp hlong)
  -- the partition at the epoch is created, and is not expired
  have hrange : ∀ a ∈ [Action.ensure 0 0, .drop now], a.InRange := by
    intro a ha
    rcases List.mem_pair.mp ha with rfl | rfl
    · exact ⟨⟨le_rfl, by decide⟩, le_rfl, by decide⟩
    · exact ⟨hnow, hnow'⟩
  obtain ⟨⟨-, hensures⟩, hrest⟩ := h _ hrange _ rfl
  obtain ⟨⟨-, hdrops⟩, -⟩ := hrest _ rfl
  have hfirst : cell span 0 ∈ ensured span 0 0 := by
    rw [ensured_eq hpos hfits ⟨⟨le_rfl, by decide⟩, le_rfl, by decide⟩]
    refine List.mem_map.mpr ⟨0, Int.mem_range_iff.mpr ?_, rfl⟩
    simp
  obtain ⟨q, hq, hname, -, hupper⟩ := hensures.created _ hfirst
  have hsecond : second ≤ q.upper := by
    rw [hupper]
    simp only [cell, boundText, zero_add, one_mul]
    unfold second at *
    omega
  have hexpired : ¬ q.upper ≤ retentionCutoff span now := by
    have hle : now / span * span ≤ now := Int.ediv_mul_le _ hpos.ne'
    unfold retentionCutoff partitionRetention
    unfold second at hsecond
    omega
  have hkept : q ∈ (dropExpiredPartitionsWithSpan span now
      (ensurePartitionRange span 0 0 []).1).1 := by
    rw [hdrops.expired]
    exact List.mem_filter.mpr ⟨hq, decide_eq_true hexpired⟩
  rw [dropExpiredPartitionsWithSpan, if_neg (not_lt.mpr hspan), partitionBoundary_eq hnow hnow']
    at hkept
  have htime : partitionTime q.name = some 0 := by
    rw [hname, cell, partitionTime_partitionName (by simp) (by simp [nameLimit, second]) (by simp)]
    simp [boundText]
  have hdate := (List.mem_filter.mp hkept).2
  simp only [htime, hcutoff, decide_true, Bool.not_true, Bool.false_eq_true] at hdate

end Spans

/-- Exactly the spans of whole seconds of which thirty fit in a duration maintain the partitions. -/
theorem partitions_maintained_iff (span : ℤ) (hspan : second ≤ span) (hspan' : span < 2 ^ 63) :
    ((∀ actions : List Action, (∀ a ∈ actions, a.InRange) →
        Along (step span) (Maintained span) [] actions)
      ↔ span % second = 0 ∧ 30 * span < 2 ^ 63)
    ∧ ∀ from_ through table table', from_ ≤ through → 2 ^ 63 ≤ through →
        ¬ Ensures span from_ through table table' := by
  have hpos : 0 < span := lt_of_lt_of_le (by decide) hspan
  refine ⟨⟨fun h => ?_, fun ⟨hwhole, hfits⟩ actions hrange => ?_⟩, ?_⟩
  · have hprebuild := prebuild_fits h hpos hspan'
    exact ⟨span_whole h hpos hprebuild, retention_fits h hspan hprebuild⟩
  · exact maintained_of_exact ⟨hspan, hwhole, hfits⟩ hrange
      ⟨fun _ hp => absurd hp List.not_mem_nil, List.nodup_nil⟩
  · exact fun from_ through table table' hfrom hlate => not_ensures_late hpos hspan' hfrom hlate

theorem partitions_maintained_by_default :
    second ≤ defaultPartitionSpan ∧ defaultPartitionSpan < 2 ^ 63
      ∧ ∀ actions : List Action, (∀ a ∈ actions, a.InRange) →
        Along (step defaultPartitionSpan) (Maintained defaultPartitionSpan) [] actions :=
  ⟨by decide, by decide, (partitions_maintained_iff defaultPartitionSpan (by decide)
    (by decide)).1.mpr (by decide)⟩

/-- With spans of a second and a half, the partition from the second half of the first second on is
dropped as if it began with that second. -/
theorem sample_after_cutoff_dropped :
    ∃ table table',
      run (step 1500000000) [] [.ensure 1500000000 1500000000, .insert (2 * second)] = some table
      ∧ step 1500000000 table (.drop 46500000000) = some table'
      ∧ retentionCutoff 1500000000 46500000000 ≤ 2 * second
      ∧ (∃ p ∈ table, 2 * second ∈ p.samples) ∧ ∀ q ∈ table', 2 * second ∉ q.samples := by
  refine ⟨_, _, rfl, rfl, ?_⟩
  decide +kernel

end DbsMonitor.Partitions
