import EsosWebui.Scst.Closing

/-! A configuration that comes back whole from its lines leaves no LUN open before its end. -/
namespace EsosWebui.Scst

open Js

namespace Finishes

variable {c c' : ScstConfig} {below : List ParserContext} {rest : List Text}

theorem luns (host : LunHost) {n : Nat} {ls : List Lun} (hls : ∀ l ∈ ls, l.Readable)
    (h : Finishes c ⟨c', host.context, below⟩ (ls.flatMap (Lun.lines n) ++ rest)) :
    (∀ l ∈ ls, l.Closed) ∨
      ButLast Lun.Closed (fun _ => True) ls ∧ ∃ lun,
        Finishes c ⟨ls.foldl (fun c l => host.addLun l.reread c) c', .lunAttrs lun,
          host.context :: below⟩ rest := by
  rcases forall_or_exists_first Lun.Closed ls with hAll | ⟨pre, l, post, rfl, hPre, hl⟩
  · exact Or.inl hAll
  · right
    simp only [List.flatMap_append, List.flatMap_cons, List.append_assoc] at h
    have hOpened := h.run
    rw [ParserState.run_luns host c' below n (fun y hy => hls y (by simp [hy])) hPre] at hOpened
    have hOpened := hOpened.run
    rw [ParserState.run_lun host _ below n (hls l (by simp)), if_pos (not_not.mp hl)] at hOpened
    obtain rfl : post = [] := tail_lun (fun y hy => hls y (by simp [hy])) hOpened
    rw [List.foldl_append]
    exact ⟨butLast_append_singleton hPre trivial, _, hOpened⟩

theorem groups {i j : Nat} {x y : Target} (hgs : ∀ g ∈ y.groups, g.Readable)
    (hls : ∀ l ∈ y.luns, l.Readable) (hx : c'.target? i j = some x) (hNew : x.groups = [])
    (hy : c.target? i j = some y)
    (h : Finishes c ⟨c', .target i j, below⟩
      (y.groups.flatMap Group.lines ++ (y.luns.flatMap (Lun.lines 2) ++ rest))) :
    (∀ g ∈ y.groups, g.Closed) ∨
      (y.luns = [] ∧ ButLast Group.Closed Group.ClosedButLast y.groups) ∧
      ∃ c'' z k, c''.target? i j = some z ∧ z.attrs = x.attrs ∧
        Finishes c ⟨c'', .group i j k, .target i j :: below⟩ rest := by
  rcases forall_or_exists_first Group.Closed y.groups with
    hAll | ⟨pre, g, post, hGroups, hPre, hg⟩
  · exact Or.inl hAll
  · right
    rw [hGroups] at hgs h
    simp only [List.flatMap_append, List.flatMap_cons, ParserState.group_lines,
      List.append_assoc] at h
    have hPart := h.run
    rw [ParserState.run_groups c' below i j (fun a ha => hgs a (by simp [ha])) hPre] at hPart
    have hBefore := ScstConfig.target?_modifyTarget
      (fun x => { x with groups := x.groups ++ pre.map Group.reread }) hx
    generalize c'.modifyTarget i j _ = c₁ at hPart hBefore
    have hCount : c₁.groupCount i j = pre.length := by simp [ScstConfig.groupCount, hBefore, hNew]
    have hHead := hPart.run
    rw [ParserState.run_groupHead c₁ below i j (hgs g (by simp)), hCount] at hHead
    have hAdded := ScstConfig.target?_modifyTarget (Target.addGroup { g with luns := [] }) hBefore
    generalize c₁.modifyTarget i j _ = c₂ at hHead hAdded
    have hGroup : c₂.group? i j pre.length = some { g with luns := [] } := by
      simp [ScstConfig.group?, hAdded, Target.addGroup, hNew]
    have hLuns := hgs g (by simp)
    rcases luns (.group i j pre.length) hLuns.luns hHead with hClosed | ⟨hLast, lun, hOpened⟩
    · exact absurd hClosed hg
    · simp only [LunHost.context, ParserState.foldl_addLun_group] at hOpened
      have hFilled := ScstConfig.group?_modifyGroup
        (fun x => { x with luns := x.luns ++ g.luns.map Lun.reread }) hGroup
      have hTarget := ScstConfig.target?_modifyTarget (Target.modifyGroup pre.length
        fun x => { x with luns := x.luns ++ g.luns.map Lun.reread }) hAdded
      have hWritten : c.group? i j pre.length = some g := by
        simp [ScstConfig.group?, hy, hGroups]
      obtain ⟨rfl, hNoLuns⟩ := tail_group (fun a ha => hgs a (by simp [ha])) hls hFilled hWritten
        (by simp) hOpened.close
      rw [hNoLuns] at hOpened
      refine ⟨⟨hNoLuns, hGroups ▸ butLast_append_singleton hPre hLast⟩, _, _, pre.length, hTarget,
        rfl, hOpened.close⟩

theorem targets {d : Nat} {x y : Driver} (hts : ∀ t ∈ y.targets, t.Readable)
    (hAttrs : ∀ t ∈ y.targets, t.rereadOwn x.name = { t with groups := [], luns := [] })
    (hx : c'.drivers[d]? = some x) (hNew : x.targets = []) (hy : c.drivers[d]? = some y)
    (h : Finishes c ⟨c', .driver d, below⟩ (y.targets.flatMap Target.lines ++ rest)) :
    (∀ t ∈ y.targets, t.Closed) ∨
      ButLast Target.Closed Target.ClosedButLast y.targets ∧
        ∃ c'' j, Finishes c ⟨c'', .target d j, .driver d :: below⟩ rest := by
  rcases forall_or_exists_first Target.Closed y.targets with
    hAll | ⟨pre, t, post, hTargets, hPre, ht⟩
  · exact Or.inl hAll
  · right
    rw [hTargets] at hts hAttrs h
    simp only [List.flatMap_append, List.flatMap_cons, ParserState.target_lines,
      List.append_assoc] at h
    have hPart := h.run
    rw [ParserState.run_targets c' below d (fun a ha => hts a (by simp [ha])) hPre] at hPart
    have hBefore : (c'.modifyDriver d fun y =>
        { y with targets := y.targets ++ pre.map (Target.reread y.name) }).drivers[d]? =
        some { x with targets := pre.map (Target.reread x.name) } := by
      simp [ScstConfig.modifyDriver, hx, hNew]
    generalize c'.modifyDriver d _ = c₁ at hPart hBefore
    have hCount : c₁.targetCount d = pre.length := by simp [ScstConfig.targetCount, hBefore]
    have hRead := hts t (by simp)
    have hHead := hPart.run
    rw [ParserState.run_targetHead c₁ below d hRead, hCount] at hHead
    have hTarget : (c₁.modifyDriver d fun y => y.addTarget (t.rereadOwn y.name)).target? d
        pre.length = some { t with groups := [], luns := [] } := by
      rw [← hAttrs t (by simp)]
      simp [ScstConfig.target?, ScstConfig.modifyDriver, hBefore, Driver.addTarget]
    generalize c₁.modifyDriver d _ = c₂ at hHead hTarget
    have hWritten : c.target? d pre.length = some t := by
      simp [ScstConfig.target?, hy, hTargets]
    -- The scope that is left open is that of the target, and no target can follow in it.
    suffices hOpen : t.ClosedButLast ∧ ∃ c'' z, c''.target? d pre.length = some z ∧
        z.attrs = t.attrs ∧ Finishes c ⟨c'', .target d pre.length, .driver d :: below⟩
          (post.flatMap Target.lines ++ rest) by
      obtain ⟨hLast, c'', z, hz, hSame, hOpened⟩ := hOpen
      obtain rfl := tail_target (fun a ha => hts a (by simp [ha])) hz hWritten hSame hOpened
      exact ⟨hTargets ▸ butLast_append_singleton hPre hLast, c'', pre.length, hOpened⟩
    rcases groups hRead.groups hRead.luns hTarget rfl hWritten hHead with
      hGroups | ⟨⟨hNoLuns, hLast⟩, c'', z, k, hz, hSame, hOpened⟩
    · have hLuns := hHead.run
      rw [ParserState.run_groups _ _ _ _ hRead.groups hGroups] at hLuns
      rcases luns (.target d pre.length) hRead.luns hLuns with hClosed | ⟨hLast, lun, hOpened⟩
      · exact absurd ⟨hGroups, hClosed⟩ ht
      · simp only [LunHost.context, ParserState.foldl_addLun_target,
          ScstConfig.modifyTarget_modifyTarget] at hOpened
        refine ⟨?_, _, _, ScstConfig.target?_modifyTarget _ hTarget, rfl, hOpened.close⟩
        unfold Target.ClosedButLast
        split
        · exact butLast_of_forall hGroups fun _ hg => hg.closedButLast
        · exact ⟨hGroups, hLast⟩
    · refine ⟨?_, c'', z, hz, hSame, hOpened.close⟩
      rwa [Target.ClosedButLast, if_pos hNoLuns]

theorem drivers {gs : List AluaDeviceGroupConfig} (hds : ∀ d ∈ c.drivers, d.Readable)
    (hAttrs : ∀ d ∈ c.drivers, ∀ t ∈ d.targets,
      t.rereadOwn d.name = { t with groups := [], luns := [] })
    (hgs : ∀ g ∈ gs, g.Readable) (hNew : c'.drivers = [])
    (h : Finishes c ⟨c', .root, []⟩
      (c.drivers.flatMap Driver.lines ++ gs.flatMap AluaDeviceGroupConfig.lines)) :
    (∀ d ∈ c.drivers, d.Closed) ∨
      gs = [] ∧ ButLast Driver.Closed Driver.ClosedButLast c.drivers := by
  rcases forall_or_exists_first Driver.Closed c.drivers with
    hAll | ⟨pre, d, post, hDrivers, hPre, hd⟩
  · exact Or.inl hAll
  · right
    rw [hDrivers] at hds hAttrs h
    simp only [List.flatMap_append, List.flatMap_cons, ParserState.driver_lines,
      List.append_assoc] at h
    have hHead := h.run.run
    rw [ParserState.run_drivers c' (fun a ha => hds a (by simp [ha])) hPre,
      ParserState.run_driverHead _ (hds d (by simp))] at hHead
    simp only [hNew, List.nil_append, List.length_map] at hHead
    rcases targets (hds d (by simp)).targets (x := { d with targets := [] }) (hAttrs d (by simp))
      (by simp) rfl (by simp [hDrivers]) hHead with hClosed | ⟨hLast, c'', j, hOpened⟩
    · exact absurd hClosed hd
    · obtain ⟨rfl, rfl⟩ :=
        tail_root (fun a ha => hds a (by simp [ha])) hgs hOpened.close.blank
      exact ⟨rfl, hDrivers ▸ butLast_append_singleton hPre hLast⟩

end Finishes

/-- A configuration that its own lines lead to leaves no LUN open before its end. -/
theorem closed_of_run_eq {c : ScstConfig} (h : c.WellFormed)
    (hRun : (ParserState.initial.run c.lines).config = c) : c.Closed := by
  have hEntries := entriesRewritable_of_run_eq h hRun
  have hFinishes : Finishes c ParserState.initial c.lines := by
    refine ⟨hRun, ?_⟩
    have hEmpty : ParserState.initial.config.weight 0 = 0 := rfl
    rw [hEmpty, Nat.zero_add]
    exact (covered_config 0 h).1
  rw [ScstConfig.lines, List.append_assoc] at hFinishes
  have hDrivers := hFinishes.run
  rw [ParserState.initial, ParserState.run_handlers _ fun x hx =>
    (h.handlers x hx).readable (hEntries.devices x hx)] at hDrivers
  rcases hDrivers.drivers (fun x hx => (h.drivers x hx).readable (hEntries.targets x hx))
    (fun x hx t ht => Target.rereadOwn_eq ((h.drivers x hx).targets t ht) (hEntries.targets x hx t ht))
    (fun x hx => (h.deviceGroups x hx).readable (hEntries.targetGroups x hx)) rfl with
    hAll | ⟨hNone, hLast⟩
  · exact ScstConfig.closed_of_forall hAll
  · rwa [ScstConfig.Closed, if_pos hNone]

/-- A configuration comes back from the file it is written to if and only if it is one
that the parser could have read, and its entries survive on the lines written for them. -/
theorem parse_serialize_eq_iff {c : ScstConfig} :
    parseScstConf (serializeScstConfig c) = c ↔ c.WellFormed ∧ c.Rewritable := by
  constructor
  · intro hBack
    have hParsed : c.WellFormed := hBack ▸ parseScstConf_wellFormed _
    have hRun := parseScstConf_serializeScstConfig_of_oneLine hParsed.oneLine
    rw [hBack] at hRun
    exact ⟨hParsed, entriesRewritable_of_run_eq hParsed hRun.symm, closed_of_run_eq hParsed hRun.symm⟩
  · rintro ⟨hParsed, hRewritable⟩
    exact parseScstConf_serializeScstConfig_eq hParsed hRewritable

/-- What was read from a text is read again from the file it is written to if and
only if it is rewritable. -/
theorem parse_serialize_parse_eq_iff (t : Text) :
    parseScstConf (serializeScstConfig (parseScstConf t)) = parseScstConf t ↔
      (parseScstConf t).Rewritable := by
  rw [parse_serialize_eq_iff]
  exact and_iff_right (parseScstConf_wellFormed t)

/-- A LUN with an attribute other than `read_only`. -/
def lunAttributeConf : Text :=
  "TARGET_DRIVER iscsi \x7b\nTARGET iqn.t \x7b\nLUN 0 disk \x7b\nthreads 4\n\x7d\n\x7d\n\x7d".toList

/-- The attribute of the LUN is read, but not written. -/
theorem lunAttributeConf_not_read_again :
    parseScstConf (serializeScstConfig (parseScstConf lunAttributeConf)) ≠
      parseScstConf lunAttributeConf := by
  decide +kernel

def ScstConfig.rewrite (c : ScstConfig) : ScstConfig := parseScstConf (serializeScstConfig c)

theorem weight_rewrite_lt {c : ScstConfig} (h : c.WellFormed) (hc : ¬ c.EntriesRewritable) :
    c.rewrite.weight 1 < c.weight 1 := by
  have hRead := weight_run_le (k := 1) (Nat.le_refl 1) ParserState.initial c.lines
  have hEmpty : ParserState.initial.config.weight 1 = 0 := rfl
  rw [hEmpty, Nat.zero_add, ← parseScstConf_serializeScstConfig_of_oneLine h.oneLine] at hRead
  exact hRead.trans_lt (Nat.lt_of_not_le fun hLe => hc ((covered_config 1 h).2 hLe rfl))

/-- A configuration that is written and read again and again stays as it is, after at most as many
times as it weighs, unless a LUN takes what follows it into its scope. -/
theorem rewrites_settle (t : Text) : ∃ n ≤ (parseScstConf t).weight 1,
    (ScstConfig.rewrite^[n] (parseScstConf t)).Closed →
      ScstConfig.rewrite (ScstConfig.rewrite^[n] (parseScstConf t)) =
        ScstConfig.rewrite^[n] (parseScstConf t) := by
  have hParsed := parseScstConf_wellFormed t
  generalize parseScstConf t = c at hParsed
  induction hWeight : c.weight 1 using Nat.strong_induction_on generalizing c with
  | h w ih =>
    by_cases hEntries : c.EntriesRewritable
    · exact ⟨0, Nat.zero_le _, fun hClosed =>
        parseScstConf_serializeScstConfig_eq hParsed ⟨hEntries, hClosed⟩⟩
    · have hLess := weight_rewrite_lt hParsed hEntries
      obtain ⟨n, hn, hSettled⟩ := ih _ (hWeight ▸ hLess) c.rewrite (parseScstConf_wellFormed _) rfl
      exact ⟨n + 1, by omega, hSettled⟩

end EsosWebui.Scst
