import DbsMonitor.AlertingSettings
import DbsMonitor.Constrained

/-!
# What a restart does to the edits of operators

Every statement of the seeds but one finds its row again in the tables that requests leave: the
default policy and the built-in rules cannot be deleted, and an edit of a rule writes its version.
The exception is the SMTP channel of the default policy. An operator can take it out of the
selection, and the next start puts it back.
-/

namespace DbsMonitor

open Machine

namespace AlertingTables

structure RulesInv (tables : AlertingTables) : Prop where
  key : (tables.rules.map AlertRuleRow.id).Nodup
  versioned : ∀ row ∈ tables.rules, (row.id, row.version) ∈ tables.versions.map AlertRuleVersion.key

structure Keeps (subjects : List EditSubject) (tables tables' : AlertingTables) : Prop where
  templates : tables'.templates = tables.templates
  rules : ∀ id ∈ tables.rules.map AlertRuleRow.id, id ∈ tables'.rules.map AlertRuleRow.id
  rulesInv : tables.RulesInv → tables'.RulesInv
  default_kept : ∀ row ∈ tables.policies, row.isDefault = true →
    ∃ row' ∈ tables'.policies, row'.id = row.id ∧ row'.isDefault = true
  default_only : ∀ row' ∈ tables'.policies, row'.isDefault = true →
    ∃ row ∈ tables.policies, row.id = row'.id ∧ row.isDefault = true
  smtp : ∀ id, (id, .smtp) ∈ tables.policyChannels →
    (id, .smtp) ∈ tables'.policyChannels ∨ .policyChannels id ∈ subjects

variable {config : AlertingConfig} {tables tables' : AlertingTables} {subjects : List EditSubject}

theorem keeps_rules {rules : List AlertRuleRow} {versions : List AlertRuleVersion}
    (hrules : ∀ id ∈ tables.rules.map AlertRuleRow.id, id ∈ rules.map AlertRuleRow.id)
    (hinv : tables.RulesInv → { tables with rules := rules, versions := versions }.RulesInv) :
    Keeps subjects tables { tables with rules := rules, versions := versions } where
  templates := rfl
  rules := hrules
  rulesInv := hinv
  default_kept := fun row hrow hdefault => ⟨row, hrow, rfl, hdefault⟩
  default_only := fun row hrow hdefault => ⟨row, hrow, rfl, hdefault⟩
  smtp := fun _ h => .inl h

theorem keeps_policies {policies : List NotificationPolicyRow}
    {policyChannels : List (PolicyId × PolicyChannel)}
    (hkept : ∀ row ∈ tables.policies, row.isDefault = true →
      ∃ row' ∈ policies, row'.id = row.id ∧ row'.isDefault = true)
    (honly : ∀ row' ∈ policies, row'.isDefault = true →
      ∃ row ∈ tables.policies, row.id = row'.id ∧ row.isDefault = true)
    (hsmtp : ∀ id, (id, .smtp) ∈ tables.policyChannels →
      (id, .smtp) ∈ policyChannels ∨ .policyChannels id ∈ subjects) :
    Keeps subjects tables
      { tables with policies := policies, policyChannels := policyChannels } where
  templates := rfl
  rules := fun _ h => h
  rulesInv := fun h => ⟨h.key, h.versioned⟩
  default_kept := hkept
  default_only := honly
  smtp := hsmtp

theorem saveAlertRuleVersion_eq_ok {row : AlertRuleRow}
    (h : tables.saveAlertRuleVersion row = .ok tables') :
    ∃ name, tables' = { tables with versions := tables.versions ++
      [{ ruleId := row.id, version := row.version, snapshot := row
         effectiveNotificationPolicyName := name }] } := by
  unfold saveAlertRuleVersion at h
  split at h
  · cases h
  · split_ifs at h
    exact ⟨_, (Except.ok.inj h).symm⟩

theorem createdRule_id (id : RuleId) (input : AlertRuleInput)
    (sourceTemplate : Option (String × ℤ)) : (createdRule id input sourceTemplate).id = id := rfl

theorem updatedRule_id (input : AlertRuleInput) (row : AlertRuleRow) :
    (updatedRule input row).id = row.id := by
  simp only [updatedRule, withInput]

theorem updatedRule_version (input : AlertRuleInput) (row : AlertRuleRow) :
    (updatedRule input row).version = row.version + 1 := by
  simp only [updatedRule]

theorem keeps_createAlertRule {id : RuleId} {input : AlertRuleInput}
    {sourceTemplate : Option (String × ℤ)}
    (h : tables.createAlertRule config id input sourceTemplate = .ok tables') :
    Keeps subjects tables tables' := by
  unfold createAlertRule at h
  dsimp only at h
  split_ifs at h with _ _ hnew
  obtain ⟨name, rfl⟩ := saveAlertRuleVersion_eq_ok h
  refine keeps_rules (fun id hid => ?_) fun hinv => ⟨?_, fun row hrow => ?_⟩
  · rw [List.map_append]
    exact List.mem_append_left _ hid
  · rw [List.map_append]
    refine hinv.key.append (List.nodup_singleton _) ?_
    rw [List.map_singleton, createdRule_id, List.disjoint_singleton]
    exact fun hid => hnew (.inl hid)
  · rw [List.map_append]
    obtain hrow | hrow := List.mem_append.mp hrow
    · exact List.mem_append_left _ (hinv.versioned row hrow)
    · obtain rfl := List.mem_singleton.mp hrow
      exact List.mem_append_right _ (List.mem_singleton.mpr rfl)

theorem map_id_updateRule {id : RuleId} {f : AlertRuleRow → AlertRuleRow}
    (hf : ∀ row, (f row).id = row.id) :
    (tables.updateRule id f).rules.map AlertRuleRow.id = tables.rules.map AlertRuleRow.id := by
  unfold updateRule
  rw [List.map_map]
  refine List.map_congr_left fun row _ => ?_
  rw [Function.comp_apply]
  split_ifs
  · exact hf row
  · rfl

theorem keeps_updateRule {id : RuleId} {f : AlertRuleRow → AlertRuleRow}
    (hid : ∀ row, (f row).id = row.id) (hversion : ∀ row, (f row).version = row.version) :
    Keeps subjects tables (tables.updateRule id f) := by
  have hids : (tables.updateRule id f).rules.map AlertRuleRow.id
      = tables.rules.map AlertRuleRow.id := map_id_updateRule hid
  refine keeps_rules (fun _ h => hids ▸ h) fun hinv => ⟨hids ▸ hinv.key, fun row' hrow' => ?_⟩
  obtain ⟨row, hrow, rfl⟩ := List.mem_map.mp hrow'
  split_ifs
  · rw [hid, hversion]
    exact hinv.versioned row hrow
  · exact hinv.versioned row hrow

theorem updateAlertRule_eq_ok {id : RuleId} {input : AlertRuleInput}
    (h : tables.updateAlertRule config id input = .ok tables') :
    ∃ existing name, tables.getAlertRule id = some existing ∧
      tables' = { tables with
        rules := (tables.updateRule id (updatedRule input)).rules
        versions := tables.versions ++
          [{ ruleId := existing.id, version := existing.version + 1
             snapshot := updatedRule input existing
             effectiveNotificationPolicyName := name }] } := by
  unfold updateAlertRule at h
  dsimp only at h
  split_ifs at h
  split at h
  · cases h
  · rename_i existing hget
    split at h
    · cases h
    · split_ifs at h
      split at h
      · cases h
      · obtain ⟨name, rfl⟩ := saveAlertRuleVersion_eq_ok h
        rw [updatedRule_id, updatedRule_version]
        exact ⟨existing, name, hget, rfl⟩

theorem keeps_updateAlertRule {id : RuleId} {input : AlertRuleInput}
    (h : tables.updateAlertRule config id input = .ok tables') : Keeps subjects tables tables' := by
  obtain ⟨existing, name, hget, rfl⟩ := updateAlertRule_eq_ok h
  have hids : (tables.updateRule id (updatedRule input)).rules.map AlertRuleRow.id
      = tables.rules.map AlertRuleRow.id := map_id_updateRule (updatedRule_id input)
  refine keeps_rules (fun _ h => hids ▸ h) fun hinv => ⟨hids ▸ hinv.key, fun row' hrow' => ?_⟩
  rw [List.map_append]
  obtain ⟨row, hrow, rfl⟩ := List.mem_map.mp hrow'
  split_ifs with hid
  · -- the rule that is updated is the one that was read
    have hexisting : existing ∈ tables.rules := List.mem_of_find?_eq_some hget
    have hexistingId : existing.id = id := by
      have := List.find?_some hget
      simp only [Bool.and_eq_true, decide_eq_true_eq] at this
      exact this.1
    simp only [Bool.and_eq_true, decide_eq_true_eq] at hid
    obtain rfl : row = existing := List.inj_on_of_nodup_map hinv.key hrow hexisting
      (hid.1.trans hexistingId.symm)
    rw [updatedRule_id, updatedRule_version]
    exact List.mem_append_right _ (List.mem_singleton.mpr rfl)
  · exact List.mem_append_left _ (hinv.versioned row hrow)

theorem keeps_updateAlertRuleEnabled {id : RuleId} {enabled : Bool}
    (h : tables.updateAlertRuleEnabled id enabled = .ok tables') :
    Keeps subjects tables tables' := by
  unfold updateAlertRuleEnabled at h
  split at h
  · cases h
  · split at h
    · cases h
    · cases h
      exact keeps_updateRule (fun _ => rfl) fun _ => rfl

theorem keeps_deleteAlertRule {id : RuleId} (h : tables.deleteAlertRule id = .ok tables') :
    Keeps subjects tables tables' := by
  unfold deleteAlertRule at h
  split at h
  · cases h
  · split at h
    · cases h
    · cases h
      refine keeps_updateRule (fun row => ?_) fun row => ?_ <;> split_ifs <;> rfl

theorem smtp_mem_replaceNotificationPolicyChannels {id id' : PolicyId}
    {channels : List PolicyChannel} (h : (id', .smtp) ∈ tables.policyChannels) :
    (id', .smtp) ∈ (tables.replaceNotificationPolicyChannels id channels).policyChannels ∨
      EditSubject.policyChannels id' ∈ [.policy id, .policyChannels id] := by
  by_cases hid : id' = id
  · exact .inr (by simp [hid])
  · exact .inl (List.mem_append_left _ (List.mem_filter.mpr ⟨h, decide_eq_true hid⟩))

theorem withPolicyInput_id (row : NotificationPolicyRow) (input : NotificationPolicyInput) :
    (withPolicyInput row input).id = row.id := by
  simp only [withPolicyInput]

theorem withPolicyInput_isDefault (row : NotificationPolicyRow) (input : NotificationPolicyInput) :
    (withPolicyInput row input).isDefault = row.isDefault := by
  simp only [withPolicyInput]

theorem keeps_createNotificationPolicy {id : PolicyId} {input : NotificationPolicyInput}
    (h : tables.createNotificationPolicy config id input = .ok tables') :
    Keeps [.policy id, .policyChannels id] tables tables' := by
  unfold createNotificationPolicy at h
  obtain ⟨_, -, h⟩ := Constrained.bind_eq_ok.mp h
  dsimp only at h
  split_ifs at h
  cases h
  refine keeps_policies (fun row hrow hdefault => ?_) (fun row hrow hdefault => ?_) fun id' => ?_
  · exact ⟨row, List.mem_append_left _ hrow, rfl, hdefault⟩
  · obtain hrow | hrow := List.mem_append.mp hrow
    · exact ⟨row, hrow, rfl, hdefault⟩
    · obtain rfl := List.mem_singleton.mp hrow
      cases hdefault
  · exact smtp_mem_replaceNotificationPolicyChannels

theorem keeps_updateNotificationPolicy {id : PolicyId} {input : NotificationPolicyInput}
    (h : tables.updateNotificationPolicy config id input = .ok tables') :
    Keeps [.policy id, .policyChannels id] tables tables' := by
  unfold updateNotificationPolicy at h
  obtain ⟨_, -, h⟩ := Constrained.bind_eq_ok.mp h
  dsimp only at h
  split at h
  · cases h
  · split_ifs at h
    cases h
    refine keeps_policies (fun row hrow hdefault => ?_) (fun row' hrow' hdefault => ?_)
      fun id' => ?_
    · refine ⟨_, List.mem_map_of_mem hrow, ?_⟩
      split_ifs
      · rw [withPolicyInput_id, withPolicyInput_isDefault]
        exact ⟨rfl, hdefault⟩
      · exact ⟨rfl, hdefault⟩
    · obtain ⟨row, hrow, rfl⟩ := List.mem_map.mp hrow'
      split_ifs at hdefault ⊢
      · rw [withPolicyInput_isDefault] at hdefault
        rw [withPolicyInput_id]
        exact ⟨row, hrow, rfl, hdefault⟩
      · exact ⟨row, hrow, rfl, hdefault⟩
    · exact smtp_mem_replaceNotificationPolicyChannels

theorem keeps_deleteNotificationPolicy {id : PolicyId}
    (h : tables.deleteNotificationPolicy id = .ok tables') :
    Keeps [.policy id, .policyChannels id] tables tables' := by
  unfold deleteNotificationPolicy at h
  split at h
  · cases h
  · split_ifs at h
    cases h
    refine keeps_policies (fun row hrow hdefault => ?_) (fun row hrow hdefault => ?_)
      fun id' hsmtp => ?_
    · exact ⟨row, List.mem_filter.mpr ⟨hrow, by simp [hdefault]⟩, rfl, hdefault⟩
    · exact ⟨row, List.mem_of_mem_filter hrow, rfl, hdefault⟩
    · by_cases hid : id' = id
      · exact .inr (by simp [hid])
      · exact .inl (List.mem_filter.mpr ⟨hsmtp, decide_eq_true hid⟩)

theorem keeps_channels {policyChannels : List (PolicyId × PolicyChannel)}
    {smtp : Option SMTPChannel} {webhooks : List (WebhookId × WebhookTarget)}
    (hsmtp : ∀ id, (id, .smtp) ∈ tables.policyChannels → (id, .smtp) ∈ policyChannels) :
    Keeps subjects tables
      { tables with policyChannels := policyChannels, smtp := smtp, webhooks := webhooks } where
  templates := rfl
  rules := fun _ h => h
  rulesInv := fun h => ⟨h.key, h.versioned⟩
  default_kept := fun row hrow hdefault => ⟨row, hrow, rfl, hdefault⟩
  default_only := fun row hrow hdefault => ⟨row, hrow, rfl, hdefault⟩
  smtp := fun id h => .inl (hsmtp id h)

theorem keeps_perform {edit : AlertingEdit} (h : edit.perform config tables = .ok tables') :
    Keeps edit.subjects tables tables' := by
  cases edit with
  | createAlertRule id input =>
    rw [AlertingEdit.perform] at h
    exact keeps_createAlertRule h
  | createAlertRuleFromTemplate id templateId overrides =>
    simp only [AlertingEdit.perform, createAlertRuleFromTemplate] at h
    split at h
    · cases h
    · exact keeps_createAlertRule h
  | copyAlertRule newId id name =>
    simp only [AlertingEdit.perform, copyAlertRule] at h
    split at h
    · cases h
    · exact keeps_createAlertRule h
  | updateAlertRule id input =>
    rw [AlertingEdit.perform] at h
    exact keeps_updateAlertRule h
  | updateAlertRuleEnabled id enabled =>
    rw [AlertingEdit.perform] at h
    exact keeps_updateAlertRuleEnabled h
  | deleteAlertRule id =>
    rw [AlertingEdit.perform] at h
    exact keeps_deleteAlertRule h
  | createNotificationPolicy id input =>
    rw [AlertingEdit.perform] at h
    exact keeps_createNotificationPolicy h
  | updateNotificationPolicy id input =>
    rw [AlertingEdit.perform] at h
    exact keeps_updateNotificationPolicy h
  | deleteNotificationPolicy id =>
    rw [AlertingEdit.perform] at h
    exact keeps_deleteNotificationPolicy h
  | updateSMTPChannel channel =>
    cases h
    exact keeps_channels fun _ h => h
  | createWebhookTarget id target =>
    simp only [AlertingEdit.perform, createWebhookTarget] at h
    split_ifs at h
    cases h
    exact keeps_channels fun _ h => h
  | updateWebhookTarget id target =>
    simp only [AlertingEdit.perform, updateWebhookTarget] at h
    split_ifs at h
    cases h
    exact keeps_channels fun _ h => h
  | deleteWebhookTarget id =>
    simp only [AlertingEdit.perform, deleteWebhookTarget] at h
    split_ifs at h
    cases h
    exact keeps_channels fun id' hsmtp => List.mem_filter.mpr ⟨hsmtp, by simp⟩

structure Seeded (tables : AlertingTables) : Prop where
  rulesInv : tables.RulesInv
  builtin : ∀ rule ∈ builtinCollectionRules, rule.id ∈ tables.rules.map AlertRuleRow.id
  default_there : ∃ row ∈ tables.policies,
    row.id = defaultNotificationPolicyId ∧ row.isDefault = true
  default_only : ∀ row ∈ tables.policies, row.isDefault = true →
    row.id = defaultNotificationPolicyId

theorem Seeded.of_keeps (h : tables.Seeded) (hkeeps : Keeps subjects tables tables') :
    tables'.Seeded where
  rulesInv := hkeeps.rulesInv h.rulesInv
  builtin := fun rule hrule => hkeeps.rules rule.id (h.builtin rule hrule)
  default_there := by
    obtain ⟨row, hrow, hid, hdefault⟩ := h.default_there
    obtain ⟨row', hrow', hid', hdefault'⟩ := hkeeps.default_kept row hrow hdefault
    exact ⟨row', hrow', hid'.trans hid, hdefault'⟩
  default_only := by
    intro row' hrow' hdefault'
    obtain ⟨row, hrow, hid, hdefault⟩ := hkeeps.default_only row' hrow' hdefault'
    exact hid ▸ h.default_only row hrow hdefault

theorem insertSMTPChannel_of_mem {channels : List (PolicyId × PolicyChannel)} {id : PolicyId}
    (h : (id, .smtp) ∈ channels) : insertSMTPChannel channels id = channels := if_pos h

theorem smtp_mem_insertSMTPChannel (channels : List (PolicyId × PolicyChannel)) (id : PolicyId) :
    (id, .smtp) ∈ insertSMTPChannel channels id := by
  unfold insertSMTPChannel
  split_ifs with h
  · exact h
  · exact List.mem_append_right _ (List.mem_singleton.mpr rfl)

theorem foldl_insertSMTPChannel {id : PolicyId} {ids : List PolicyId}
    (h : ∀ id' ∈ ids, id' = id) {channels : List (PolicyId × PolicyChannel)}
    (hsmtp : (id, .smtp) ∈ channels) : ids.foldl insertSMTPChannel channels = channels := by
  induction ids with
  | nil => rfl
  | cons id' ids ih =>
    obtain rfl := h id' List.mem_cons_self
    rw [List.foldl_cons, insertSMTPChannel_of_mem hsmtp]
    exact ih fun id'' hid'' => h id'' (List.mem_cons_of_mem _ hid'')

namespace Seeded

variable (h : tables.Seeded)

include h

theorem seedDefaultPolicy_eq : tables.seedDefaultPolicy = tables := by
  obtain ⟨row, hrow, hid, -⟩ := h.default_there
  exact if_pos (List.any_eq_true.mpr ⟨row, hrow, by simp [hid]⟩)

theorem seedDefaultPolicyChannel_eq :
    tables.seedDefaultPolicyChannel = { tables with
      policyChannels := insertSMTPChannel tables.policyChannels defaultNotificationPolicyId } := by
  have hids : ∀ id ∈ (tables.policies.filter NotificationPolicyRow.isDefault).map
      NotificationPolicyRow.id, id = defaultNotificationPolicyId := by
    intro id hid
    obtain ⟨row, hrow, rfl⟩ := List.mem_map.mp hid
    obtain ⟨hrow, hdefault⟩ := List.mem_filter.mp hrow
    exact h.default_only row hrow hdefault
  have hne : (tables.policies.filter NotificationPolicyRow.isDefault).map
      NotificationPolicyRow.id ≠ [] := by
    obtain ⟨row, hrow, -, hdefault⟩ := h.default_there
    exact List.ne_nil_of_mem (List.mem_map_of_mem (List.mem_filter.mpr ⟨hrow, hdefault⟩))
  unfold seedDefaultPolicyChannel
  obtain ⟨id, ids, hlist⟩ := List.exists_cons_of_ne_nil hne
  rw [hlist] at hids
  dsimp only
  rw [hlist, List.foldl_cons, hids id List.mem_cons_self,
    foldl_insertSMTPChannel (fun id' hid' => hids id' (List.mem_cons_of_mem _ hid'))
      (smtp_mem_insertSMTPChannel _ _)]

theorem seedRule_eq {rule : BuiltinRule} (hrule : rule ∈ builtinCollectionRules) :
    tables.seedRule rule = tables := by
  obtain ⟨row, hrow, hid⟩ := List.mem_map.mp (h.builtin rule hrule)
  exact if_pos (List.any_eq_true.mpr ⟨row, hrow, by simp [hid]⟩)

theorem seedRuleVersion_eq (name : String) (rule : BuiltinRule) :
    tables.seedRuleVersion name rule = tables := by
  unfold seedRuleVersion
  split
  · rfl
  · rename_i row hfind
    exact if_pos (h.rulesInv.versioned row (List.mem_of_find?_eq_some hfind))

theorem foldl_seedRule (name : String) {rules : List BuiltinRule}
    (hrules : ∀ rule ∈ rules, rule ∈ builtinCollectionRules) :
    rules.foldl (fun tables rule => (tables.seedRule rule).seedRuleVersion name rule) tables
      = tables := by
  induction rules with
  | nil => rfl
  | cons rule rules ih =>
    rw [List.foldl_cons, h.seedRule_eq (hrules rule List.mem_cons_self), h.seedRuleVersion_eq]
    exact ih fun rule' hrule' => hrules rule' (List.mem_cons_of_mem _ hrule')

theorem withChannels (policyChannels : List (PolicyId × PolicyChannel)) :
    { tables with policyChannels := policyChannels }.Seeded :=
  ⟨⟨h.rulesInv.key, h.rulesInv.versioned⟩, h.builtin, h.default_there, h.default_only⟩

/-- A seeding of tables that are seeded puts the SMTP channel in the default policy, replaces the
templates, and does nothing else. -/
theorem reconcileAlertingSeeds_eq (templates : List RuleTemplate) :
    reconcileAlertingSeeds templates tables = .ok { tables with
      policyChannels := insertSMTPChannel tables.policyChannels defaultNotificationPolicyId
      templates := templates } := by
  have hchannels := h.withChannels
    (insertSMTPChannel tables.policyChannels defaultNotificationPolicyId)
  unfold reconcileAlertingSeeds
  rw [h.seedDefaultPolicy_eq, h.seedDefaultPolicyChannel_eq]
  obtain ⟨row, hrow, -, hdefault⟩ := h.default_there
  cases hpolicy : getDefaultNotificationPolicy { tables with
      policyChannels := insertSMTPChannel tables.policyChannels defaultNotificationPolicyId } with
  | none => exact absurd hdefault (List.find?_eq_none.mp hpolicy row hrow)
  | some policy =>
    dsimp only
    rw [hpolicy]
    dsimp only
    rw [hchannels.foldl_seedRule policy.name fun _ h => h]

end Seeded

end AlertingTables

namespace AlertingPlatform

open AlertingTables

structure PlatformInv (config : AlertingConfig) (s : AlertingPlatform) : Prop where
  seeded : s.tables.Seeded
  templates : s.tables.templates = config.templates
  smtp : (defaultNotificationPolicyId, .smtp) ∈ s.tables.policyChannels ∨
    .policyChannels defaultNotificationPolicyId ∈ s.edited

variable {config : AlertingConfig} {s t : AlertingPlatform}

theorem PlatformInv.restarted (h : PlatformInv config s) :
    PlatformInv config { s with tables := { s.tables with
      policyChannels := insertSMTPChannel s.tables.policyChannels defaultNotificationPolicyId
      templates := config.templates } } where
  seeded := ⟨⟨h.seeded.rulesInv.key, h.seeded.rulesInv.versioned⟩, h.seeded.builtin,
    h.seeded.default_there, h.seeded.default_only⟩
  templates := rfl
  smtp := .inl (smtp_mem_insertSMTPChannel _ _)

theorem PlatformInv.step (h : PlatformInv config s) {action : PlatformAction}
    (hstep : s.step config action = some t) : PlatformInv config t := by
  cases action with
  | edit edit =>
    simp only [AlertingPlatform.step] at hstep
    split at hstep
    · rename_i tables hperform
      cases hstep
      have hkeeps := keeps_perform hperform
      refine ⟨h.seeded.of_keeps hkeeps, hkeeps.templates.trans h.templates, ?_⟩
      obtain hsmtp | hedited := h.smtp
      · exact (hkeeps.smtp _ hsmtp).imp_right fun hsubject => List.mem_append_left _ hsubject
      · exact .inr (List.mem_append_right _ hedited)
    · cases hstep
      exact h
  | restart =>
    simp only [AlertingPlatform.step, h.seeded.reconcileAlertingSeeds_eq] at hstep
    cases hstep
    exact h.restarted

def firstTables (templates : List RuleTemplate) : AlertingTables :=
  { rules := migratedTables.rules ++ builtinCollectionRules.map BuiltinRule.row
    versions := migratedTables.versions ++ builtinCollectionRules.map fun rule =>
      { ruleId := rule.id, version := 1, snapshot := rule.row
        effectiveNotificationPolicyName := defaultNotificationPolicyName ++ "（继承）" }
    templates := templates
    policies :=
      [{ id := defaultNotificationPolicyId, identifier := defaultNotificationPolicyIdentifier
         name := defaultNotificationPolicyName, isDefault := true }]
    policyChannels := [(defaultNotificationPolicyId, .smtp)] }

theorem reconcileAlertingSeeds_templates (templates : List RuleTemplate) (tables : AlertingTables) :
    reconcileAlertingSeeds templates tables = (reconcileAlertingSeeds [] tables).map
      fun tables => { tables with templates := templates } := by
  unfold reconcileAlertingSeeds
  dsimp only
  split <;> rfl

theorem reconcileAlertingSeeds_migratedTables (templates : List RuleTemplate) :
    reconcileAlertingSeeds templates migratedTables = .ok (firstTables templates) := by
  have hempty : reconcileAlertingSeeds [] migratedTables = .ok (firstTables []) := by
    decide +kernel
  rw [reconcileAlertingSeeds_templates, hempty]
  rfl

theorem seeded_firstTables (templates : List RuleTemplate) : (firstTables templates).Seeded := by
  have hrules : (firstTables []).RulesInv := ⟨by decide +kernel, by decide +kernel⟩
  have hbuiltin : ∀ rule ∈ builtinCollectionRules,
      rule.id ∈ (firstTables []).rules.map AlertRuleRow.id := by decide +kernel
  exact
    { rulesInv := ⟨hrules.key, hrules.versioned⟩
      builtin := hbuiltin
      default_there := ⟨_, List.mem_singleton.mpr rfl, rfl, rfl⟩
      default_only := fun row hrow _ => by rw [List.mem_singleton.mp hrow] }

theorem platformInv_first {first : AlertingTables}
    (h : reconcileAlertingSeeds config.templates migratedTables = .ok first) :
    PlatformInv config { tables := first } := by
  rw [reconcileAlertingSeeds_migratedTables] at h
  cases h
  exact ⟨seeded_firstTables config.templates, rfl, .inl (List.mem_singleton.mpr rfl)⟩

theorem platformInv_run {first : AlertingTables}
    (hfirst : reconcileAlertingSeeds config.templates migratedTables = .ok first)
    {actions : List PlatformAction}
    (hrun : run (AlertingPlatform.step config) { tables := first } actions = some s) :
    PlatformInv config s :=
  run_invariant _ (fun _ _ _ h hstep => h.step hstep) actions (platformInv_first hfirst) hrun

/-- The rules, with their versions, the policies and the selections of channels that operators have
edited are as they were. -/
structure PreservesEdits (edited : List EditSubject) (tables tables' : AlertingTables) : Prop where
  rules : ∀ id, .rule id ∈ edited →
    (tables'.rules.filter fun row => row.id = id) = tables.rules.filter fun row => row.id = id
  versions : ∀ id, .rule id ∈ edited →
    (tables'.versions.filter fun row => row.ruleId = id)
      = tables.versions.filter fun row => row.ruleId = id
  policies : ∀ id, .policy id ∈ edited →
    (tables'.policies.filter fun row => row.id = id)
      = tables.policies.filter fun row => row.id = id
  policyChannels : ∀ id, .policyChannels id ∈ edited →
    (tables'.policyChannels.filter fun channel => channel.1 = id)
      = tables.policyChannels.filter fun channel => channel.1 = id

/-- A restart preserves the edits, and a second one changes nothing, exactly where the default
policy still selects the SMTP channel. -/
theorem restart_preserves_edits_iff {first : AlertingTables} {actions : List PlatformAction}
    (hfirst : reconcileAlertingSeeds config.templates migratedTables = .ok first)
    (hrun : run (AlertingPlatform.step config) { tables := first } actions = some s) :
    (∃ tables', reconcileAlertingSeeds config.templates s.tables = .ok tables' ∧
        PreservesEdits s.edited s.tables tables' ∧
        reconcileAlertingSeeds config.templates tables' = .ok tables')
      ↔ (defaultNotificationPolicyId, .smtp) ∈ s.tables.policyChannels := by
  have hinv := platformInv_run hfirst hrun
  have hrestart := hinv.seeded.reconcileAlertingSeeds_eq config.templates
  constructor
  · rintro ⟨tables', htables', hpreserves, -⟩
    obtain hsmtp | hedited := hinv.smtp
    · exact hsmtp
    · -- the selection has been edited, and now has the channel
      obtain rfl := Except.ok.inj (hrestart.symm.trans htables')
      have hmem : (defaultNotificationPolicyId, .smtp) ∈ (insertSMTPChannel
          s.tables.policyChannels defaultNotificationPolicyId).filter fun channel =>
            channel.1 = defaultNotificationPolicyId :=
        List.mem_filter.mpr ⟨smtp_mem_insertSMTPChannel _ _, decide_eq_true rfl⟩
      rw [hpreserves.policyChannels _ hedited] at hmem
      exact List.mem_of_mem_filter hmem
  · intro hsmtp
    -- nothing is inserted, so that the tables are as they were
    rw [insertSMTPChannel_of_mem hsmtp, ← hinv.templates] at hrestart
    refine ⟨s.tables, ?_, ?_, ?_⟩
    · rw [← hinv.templates]
      exact hrestart
    · exact ⟨fun _ _ => rfl, fun _ _ => rfl, fun _ _ => rfl, fun _ _ => rfl⟩
    · rw [← hinv.templates]
      exact hrestart

def plainConfig : AlertingConfig where
  metrics := { alertability := fun _ => some .yes, encodings := fun _ => none }
  dictionary :=
    { metrics := [], slots := [], metrics_nodup := by simp, slots_nodup := List.nodup_nil
      bound_once := by simp, declared := by simp }
  quote := id
  instances := fun _ => none
  contacts := []
  contactGroups := []
  notificationRepeatMinimum := 900
  templates := []

/-- A webhook target is created, and the default policy is edited to have these channels. -/
def channelEdits (channels : List PolicyChannel) : List PlatformAction :=
  [.edit (.createWebhookTarget "pager" { enabled := true, url := "https://pager" }),
   .edit (.updateNotificationPolicy defaultNotificationPolicyId
    { name := "默认策略", contactIds := [], contactGroupIds := [], channels := channels
      severityFilter := [.critical], notifyOnFire := true, notifyOnRecovery := true
      repeatInterval := 3600, templateId := none })]

def channelsEdited (channels : List PolicyChannel) : AlertingPlatform :=
  { tables := { firstTables [] with
      policies :=
        [{ id := defaultNotificationPolicyId, identifier := defaultNotificationPolicyIdentifier
           name := "默认策略", isDefault := true, severityFilter := [.critical] }]
      policyChannels := channels.map fun channel => (defaultNotificationPolicyId, channel)
      webhooks := [("pager", { enabled := true, url := "https://pager" })] }
    edited := [.policy defaultNotificationPolicyId, .policyChannels defaultNotificationPolicyId] }

theorem restart_adds_smtp_channel :
    reconcileAlertingSeeds plainConfig.templates migratedTables = .ok (firstTables []) ∧
      run (AlertingPlatform.step plainConfig) { tables := firstTables [] }
        (channelEdits [.webhook "pager"]) = some (channelsEdited [.webhook "pager"]) ∧
      ¬∃ tables', reconcileAlertingSeeds plainConfig.templates
          (channelsEdited [.webhook "pager"]).tables = .ok tables' ∧
        PreservesEdits (channelsEdited [.webhook "pager"]).edited
          (channelsEdited [.webhook "pager"]).tables tables' := by
  have hrestart : reconcileAlertingSeeds plainConfig.templates
      (channelsEdited [.webhook "pager"]).tables
        = .ok (channelsEdited [.webhook "pager", .smtp]).tables := by decide +kernel
  refine ⟨reconcileAlertingSeeds_migratedTables [], by decide +kernel, ?_⟩
  rintro ⟨tables', htables', hpreserves⟩
  obtain rfl := Except.ok.inj (hrestart.symm.trans htables')
  have hsame := hpreserves.policyChannels defaultNotificationPolicyId (by decide)
  exact absurd hsame (by decide +kernel)

theorem restart_preserves_edits_iff_webhook_added :
    run (AlertingPlatform.step plainConfig) { tables := firstTables [] }
        (channelEdits [.smtp, .webhook "pager"])
      = some (channelsEdited [.smtp, .webhook "pager"]) ∧
      ∃ tables', reconcileAlertingSeeds plainConfig.templates
          (channelsEdited [.smtp, .webhook "pager"]).tables = .ok tables' ∧
        PreservesEdits (channelsEdited [.smtp, .webhook "pager"]).edited
          (channelsEdited [.smtp, .webhook "pager"]).tables tables' ∧
        reconcileAlertingSeeds plainConfig.templates tables' = .ok tables' := by
  have hrun : run (AlertingPlatform.step plainConfig) { tables := firstTables [] }
      (channelEdits [.smtp, .webhook "pager"])
        = some (channelsEdited [.smtp, .webhook "pager"]) := by decide +kernel
  exact ⟨hrun, (restart_preserves_edits_iff (reconcileAlertingSeeds_migratedTables []) hrun).mpr
    List.mem_cons_self⟩

end AlertingPlatform

end DbsMonitor
