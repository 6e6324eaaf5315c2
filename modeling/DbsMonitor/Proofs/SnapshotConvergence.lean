import DbsMonitor.Proofs.ChannelSecrets

/-!
# The snapshot file and the tables it describes

A sync that begins after the last commit reads the tables as they are. The request that commits last
begins such a sync, so the file is right when all requests have finished, unless the snapshot of an
earlier sync replaces that of a later one.
-/

namespace DbsMonitor.Channels

open Machine Pool

variable {Key : Type} {config : ChannelConfig Key}

/-- The phases after a commit that lead to the snapshot of a sync begun after `last`. -/
def Owes (last : ℕ) : ChannelPhase → Prop
  | .writing _ _ => False
  | .written => True
  | .listing _ begun | .publishing _ begun => last < begun

def HasRead (config : ChannelConfig Key) (tables : ChannelTables) (begun last : ℕ) :
    ChannelPhase → Prop
  | .writing _ _ | .written => True
  | .listing smtp mine => mine ≤ begun ∧ (last < mine → smtp = tables.smtp)
  | .publishing snapshot mine =>
    mine ≤ begun ∧ (last < mine → snapshot = tables.snapshot config.nameLess)

structure SnapshotInv (config : ChannelConfig Key) (last : ℕ) (s : Channels) : Prop where
  last_le : last ≤ s.begun
  published_le : s.published ≤ s.begun
  hasRead : Each (fun _ pending => HasRead config s.tables s.begun last pending.2) s.requests
  file : last < s.published → s.file = s.tables.snapshot config.nameLess
  owed : s.published ≤ last → Any (fun _ pending => Owes last pending.2) s.requests

def NotOvertaken (published : ℕ) : ChannelPhase → Prop
  | .publishing _ begun => published ≤ begun
  | _ => True

instance NotOvertaken.decidable (published : ℕ) : ∀ phase, Decidable (NotOvertaken published phase)
  | .publishing _ begun => inferInstanceAs (Decidable (published ≤ begun))
  | .writing _ _ | .written | .listing _ _ => .isTrue trivial

def InOrder (s : Channels) (a : Action) (_ : Channels) : Prop :=
  match a with
  | .publish id => ∀ pending ∈ s.requests.lookup id, NotOvertaken s.published pending.2
  | _ => True

instance InOrder.decidable (s : Channels) : ∀ a t, Decidable (InOrder s a t)
  | .publish id, _ => inferInstanceAs (Decidable
      (∀ pending ∈ s.requests.lookup id, NotOvertaken s.published pending.2))
  | .receive _ _, _ | .write _, _ | .readSMTPChannel _, _ | .readWebhookTargets _, _ =>
    .isTrue trivial

theorem HasRead.begin {tables : ChannelTables} {begun last : ℕ} {phase : ChannelPhase}
    (h : HasRead config tables begun last phase) :
    HasRead config tables (begun + 1) last phase := by
  cases phase with
  | writing _ _ | written => trivial
  | listing _ _ | publishing _ _ => exact ⟨Nat.le_succ_of_le h.1, h.2⟩

theorem HasRead.commit {tables tables' : ChannelTables} {begun last : ℕ} {phase : ChannelPhase}
    (h : HasRead config tables begun last phase) : HasRead config tables' begun begun phase := by
  cases phase with
  | writing _ _ | written => trivial
  | listing _ _ | publishing _ _ => exact ⟨h.1, fun hlt => absurd h.1 hlt.not_ge⟩

variable {s t : Channels} {a : Action} {last : ℕ}

theorem SnapshotInv.step (hs : SnapshotInv config last s) (hstep : step config s a = some t)
    (horder : InOrder s a t) : ∃ last', SnapshotInv config last' t := by
  cases Move.of_step hstep with
  | refuse => exact ⟨last, hs⟩
  | receive hnew hprepare =>
    have hnone := AList.lookup_eq_none.mpr hnew
    refine ⟨last, hs.last_le, hs.published_le, hs.hasRead.insert trivial, hs.file, fun hlast => ?_⟩
    exact (hs.owed hlast).insert_of fun old hold => by cases hnone.symm.trans hold
  | fail hlookup =>
    refine ⟨last, hs.last_le, hs.published_le, hs.hasRead.erase, hs.file, fun hlast => ?_⟩
    refine (hs.owed hlast).erase_of fun old hold => ?_
    cases hlookup.symm.trans hold
    exact id
  | write hlookup hwrite =>
    refine ⟨s.begun, le_rfl, hs.published_le, ?_, ?_, fun _ => any_insert trivial⟩
    · exact (hs.hasRead.mono fun _ _ h => h.commit).insert trivial
    · exact fun hlast => absurd hs.published_le hlast.not_ge
  | readSMTPChannel hlookup =>
    have hlast := Nat.lt_succ_of_le hs.last_le
    refine ⟨last, hlast.le, Nat.le_succ_of_le hs.published_le, ?_, hs.file, ?_⟩
    · exact (hs.hasRead.mono fun _ _ h => h.begin).insert ⟨le_rfl, fun _ => rfl⟩
    · exact fun _ => any_insert hlast
  | @readWebhookTargets id request smtp begun hlookup =>
    obtain ⟨hle, hsmtp⟩ := hs.hasRead id _ hlookup
    refine ⟨last, hs.last_le, hs.published_le, hs.hasRead.insert ⟨hle, ?_⟩, hs.file, ?_⟩
    · intro hlast
      rw [hsmtp hlast]
      rfl
    · intro hpublished
      by_cases hlast : last < begun
      · exact any_insert hlast
      · refine (hs.owed hpublished).insert_of fun old hold => ?_
        cases hlookup.symm.trans hold
        exact hlast
  | @publish id request snapshot begun hlookup =>
    obtain ⟨hle, hsnapshot⟩ := hs.hasRead id _ hlookup
    have hpublished : s.published ≤ begun := horder _ hlookup
    refine ⟨last, hs.last_le, hle, hs.hasRead.erase, hsnapshot, fun hlast => ?_⟩
    -- the sync began before the last commit, so another one is still to come
    refine (hs.owed (hpublished.trans hlast)).erase_of fun old hold => ?_
    cases hlookup.symm.trans hold
    exact hlast.not_gt

theorem SnapshotInv.start (config : ChannelConfig Key) (tables : ChannelTables) :
    SnapshotInv config 0 (start config tables) where
  last_le := Nat.zero_le 1
  published_le := le_rfl
  hasRead := each_empty
  file _ := rfl
  owed h := absurd h Nat.one_pos.not_ge

theorem SnapshotInv.file_of_finished (hs : SnapshotInv config last s)
    (hfinished : s.requests.keys = []) : s.file = s.tables.snapshot config.nameLess := by
  refine hs.file (Nat.lt_of_not_le fun hpublished => ?_)
  obtain ⟨id, hid⟩ := (hs.owed hpublished).mem_keys
  rw [hfinished] at hid
  cases hid

/-- While snapshots are published in the order in which their syncs began, the file describes the
tables whenever no request is under way. -/
theorem snapshot_converges (config : ChannelConfig Key) (tables : ChannelTables)
    (actions : List Action) (horder : Along (step config) InOrder (start config tables) actions) :
    Along (step config) (fun _ _ t => t.requests.keys = [] →
      t.file = t.tables.snapshot config.nameLess) (start config tables) actions := by
  refine Along.of_guarded (I := fun s => ∃ last, SnapshotInv config last s) ?_
    ⟨0, SnapshotInv.start config tables⟩ horder
  rintro s a t ⟨last, hs⟩ hstep hinOrder
  obtain ⟨last', ht⟩ := hs.step hstep hinOrder
  exact ⟨ht.file_of_finished, last', ht⟩

/-- The target is renamed and read, then its signing value is set and read. -/
def crossing : List Action :=
  [.receive 0 rename, .write 0, .readSMTPChannel 0, .readWebhookTargets 0,
    .receive 1 newSigningValue, .write 1, .readSMTPChannel 1, .readWebhookTargets 1]

theorem older_snapshot_published_last :
    ∃ t, run (step plainChannels) (start plainChannels pager)
        (crossing ++ [.publish 1, .publish 0]) = some t
      ∧ t.requests.keys = [] ∧ t.file ≠ t.tables.snapshot plainChannels.nameLess := by
  refine ⟨_, rfl, ?_⟩
  decide +kernel

theorem snapshot_converges_crossing :
    (run (step plainChannels) (start plainChannels pager)
        (crossing ++ [.publish 0, .publish 1])).isSome
      ∧ Along (step plainChannels) (fun _ _ t => t.requests.keys = [] →
        t.file = t.tables.snapshot plainChannels.nameLess) (start plainChannels pager)
        (crossing ++ [.publish 0, .publish 1]) :=
  ⟨by decide +kernel, snapshot_converges plainChannels pager _ (by decide +kernel)⟩

end DbsMonitor.Channels
