import EsosWebui.Scst.WellFormed

/-! The serialised file as a whole: every line that is written stays on one line,
so that parsing the file reads the written lines one by one. -/
namespace EsosWebui.Scst

open Js

def OneLine (s : Text) : Prop := '\n' ∉ s

theorem oneLine_templateLine {parts : List Text} (n : Nat) (h : ∀ p ∈ parts, OneLine p) :
    OneLine (templateLine n parts) := by
  intro hMem
  rcases List.mem_append.mp hMem with hTab | hPart
  · exact absurd (List.mem_replicate.mp hTab).2 (by decide)
  · rcases mem_intercalate hPart with hBlank | ⟨p, hp, hc⟩
    · exact absurd hBlank (by decide)
    · exact h p hp hc

theorem oneLine_of_isWord {w : Text} (h : IsWord w) : OneLine w := fun hMem =>
  absurd (h.2 _ hMem) (by decide)

theorem oneLine_of_words {parts : List Text} (n : Nat) (h : ∀ w ∈ parts, IsWord w) :
    OneLine (templateLine n parts) :=
  oneLine_templateLine n fun p hp => oneLine_of_isWord (h p hp)

private theorem oneLine_attrLines {attrs : Record Text} (n : Nat)
    (h : ∀ e ∈ attrs.entries, IsWord e.1 ∧ OneLine e.2) : ∀ l ∈ attrLines n attrs, OneLine l := by
  intro l hl
  obtain ⟨e, he, rfl⟩ := List.mem_map.mp hl
  exact oneLine_templateLine n (by simpa using ⟨oneLine_of_isWord (h e he).1, (h e he).2⟩)

private theorem oneLine_close (n : Nat) : OneLine (templateLine n [closeBrace]) :=
  oneLine_of_words n (by decide)

private theorem oneLine_open {keyword name : Text} (n : Nat) (hk : IsWord keyword)
    (hName : IsWord name) : OneLine (templateLine n [keyword, name, openBrace]) :=
  oneLine_of_words n (by simpa using ⟨hk, hName, by decide⟩)

private theorem oneLine_pair {keyword name : Text} (n : Nat) (hk : IsWord keyword)
    (hName : IsWord name) : OneLine (templateLine n [keyword, name]) :=
  oneLine_of_words n (by simpa using ⟨hk, hName⟩)

theorem Device.oneLine {x : Device} (hName : IsWord x.name) (hFilename : OneLine x.filename)
    (hAttrs : ∀ e ∈ x.attrs.entries, IsWord e.1 ∧ OneLine e.2) : ∀ l ∈ x.lines, OneLine l := by
  intro l hl
  simp only [Device.lines, List.mem_append, List.mem_singleton] at hl
  rcases hl with ((rfl | hl) | hl) | rfl
  · exact oneLine_open 1 (by decide) hName
  · split at hl
    · simp at hl
    · obtain rfl := List.mem_singleton.mp hl
      exact oneLine_templateLine 2
        (by simpa using ⟨oneLine_of_isWord (w := Keyword.filename) (by decide), hFilename⟩)
  · exact oneLine_attrLines 2 hAttrs l hl
  · exact oneLine_close 1

theorem Handler.oneLine {x : Handler} (hName : IsWord x.name)
    (hDevices : ∀ d ∈ x.devices, ∀ l ∈ d.lines, OneLine l) : ∀ l ∈ x.lines, OneLine l := by
  intro l hl
  simp only [Handler.lines, List.mem_append, List.mem_flatMap, List.mem_cons,
    List.not_mem_nil, or_false] at hl
  rcases hl with (rfl | ⟨d, hd, hl⟩) | rfl | rfl
  · exact oneLine_open 0 (by decide) hName
  · exact hDevices d hd l hl
  · exact oneLine_close 0
  · simp [OneLine]

theorem Lun.oneLine {x : Lun} (hId : IsWord x.id.toText) (hDevice : IsWord x.device) (n : Nat) :
    ∀ l ∈ x.lines n, OneLine l := by
  intro l hl
  unfold Lun.lines at hl
  split at hl
  · simp only [List.mem_cons, List.not_mem_nil, or_false] at hl
    rcases hl with rfl | rfl | rfl
    · exact oneLine_of_words n (by simpa using ⟨by decide, hId, hDevice, by decide⟩)
    · exact oneLine_of_words (n + 1) (by decide)
    · exact oneLine_close n
  · obtain rfl := List.mem_singleton.mp hl
    exact oneLine_of_words n (by simpa using ⟨by decide, hId, hDevice⟩)

theorem Group.oneLine {x : Group} (hName : IsWord x.name) (hInitiators : ∀ i ∈ x.initiators, IsWord i)
    (hLuns : ∀ y ∈ x.luns, ∀ l ∈ y.lines 3, OneLine l) : ∀ l ∈ x.lines, OneLine l := by
  intro l hl
  simp only [Group.lines, List.mem_append, List.mem_singleton, List.mem_map,
    List.mem_flatMap] at hl
  rcases hl with ((rfl | ⟨i, hi, rfl⟩) | ⟨y, hy, hl⟩) | rfl
  · exact oneLine_open 2 (by decide) hName
  · exact oneLine_pair 3 (by decide) (hInitiators i hi)
  · exact hLuns y hy l hl
  · exact oneLine_close 2

theorem Target.oneLine {x : Target} (hName : IsWord x.name)
    (hAttrs : ∀ e ∈ x.attrs.entries, IsWord e.1 ∧ OneLine e.2)
    (hGroups : ∀ g ∈ x.groups, ∀ l ∈ g.lines, OneLine l)
    (hLuns : ∀ y ∈ x.luns, ∀ l ∈ y.lines 2, OneLine l) : ∀ l ∈ x.lines, OneLine l := by
  intro l hl
  simp only [Target.lines, List.mem_append, List.mem_singleton, List.mem_flatMap] at hl
  rcases hl with (((((rfl | hl) | hl) | hl) | ⟨g, hg, hl⟩) | ⟨y, hy, hl⟩) | rfl
  · exact oneLine_open 1 (by decide) hName
  · split at hl
    · obtain rfl := List.mem_singleton.mp hl
      exact oneLine_of_words 2 (by decide)
    · simp at hl
  · split at hl
    · simp at hl
    · obtain rfl := List.mem_singleton.mp hl
      exact oneLine_of_words 2 (by decide)
  · exact oneLine_attrLines 2 hAttrs l hl
  · exact hGroups g hg l hl
  · exact hLuns y hy l hl
  · exact oneLine_close 1

theorem Driver.oneLine {x : Driver} (hName : IsWord x.name)
    (hTargets : ∀ t ∈ x.targets, ∀ l ∈ t.lines, OneLine l) : ∀ l ∈ x.lines, OneLine l := by
  intro l hl
  simp only [Driver.lines, List.mem_append, List.mem_flatMap, List.mem_cons,
    List.not_mem_nil, or_false] at hl
  rcases hl with ((rfl | hl) | ⟨t, ht, hl⟩) | rfl | rfl
  · exact oneLine_open 0 (by decide) hName
  · split at hl
    · simp at hl
    · obtain rfl := List.mem_singleton.mp hl
      exact oneLine_of_words 1 (by decide)
  · exact hTargets t ht l hl
  · exact oneLine_close 0
  · simp [OneLine]

theorem AluaTargetGroupConfig.oneLine {x : AluaTargetGroupConfig} (hName : IsWord x.name)
    (hGroupId : IsWord x.groupId.toText) (hTargets : ∀ t ∈ x.targets, IsWord t) :
    ∀ l ∈ x.lines, OneLine l := by
  intro l hl
  simp only [AluaTargetGroupConfig.lines, List.mem_append, List.mem_singleton, List.mem_map] at hl
  rcases hl with ((rfl | hl) | ⟨t, ht, rfl⟩) | rfl
  · exact oneLine_open 1 (by decide) hName
  · split at hl
    · obtain rfl := List.mem_singleton.mp hl
      exact oneLine_pair 2 (by decide) hGroupId
    · simp at hl
  · exact oneLine_pair 2 (by decide) (hTargets t ht)
  · exact oneLine_close 1

theorem AluaDeviceGroupConfig.oneLine {x : AluaDeviceGroupConfig} (hName : IsWord x.name)
    (hDevices : ∀ d ∈ x.devices, IsWord d)
    (hTargetGroups : ∀ t ∈ x.targetGroups, ∀ l ∈ t.lines, OneLine l) :
    ∀ l ∈ x.lines, OneLine l := by
  intro l hl
  simp only [AluaDeviceGroupConfig.lines, List.mem_append, List.mem_map,
    List.mem_flatMap, List.mem_cons, List.not_mem_nil, or_false] at hl
  rcases hl with ((rfl | ⟨d, hd, rfl⟩) | ⟨t, ht, hl⟩) | rfl | rfl
  · exact oneLine_open 0 (by decide) hName
  · exact oneLine_pair 1 (by decide) (hDevices d hd)
  · exact hTargetGroups t ht l hl
  · exact oneLine_close 0
  · simp [OneLine]

theorem ScstConfig.oneLine {c : ScstConfig} (hHandlers : ∀ x ∈ c.handlers, ∀ l ∈ x.lines, OneLine l)
    (hDrivers : ∀ x ∈ c.drivers, ∀ l ∈ x.lines, OneLine l)
    (hDeviceGroups : ∀ x ∈ c.deviceGroups, ∀ l ∈ x.lines, OneLine l) :
    ∀ l ∈ c.lines, OneLine l := by
  intro l hl
  simp only [ScstConfig.lines, List.mem_append, List.mem_flatMap] at hl
  rcases hl with (⟨x, hx, hl⟩ | ⟨x, hx, hl⟩) | ⟨x, hx, hl⟩
  · exact hHandlers x hx l hl
  · exact hDrivers x hx l hl
  · exact hDeviceGroups x hx l hl

theorem ScstConfig.ScopeSafe.oneLine {c : ScstConfig} (h : c.ScopeSafe) :
    ∀ l ∈ c.lines, OneLine l := by
  have hLuns (n : Nat) (y : Lun) (hy : y.Readable) : ∀ l ∈ y.lines n, OneLine l :=
    Lun.oneLine (isWord_of_isDigits hy.id.1) hy.device n
  refine ScstConfig.oneLine (fun x hx => ?_) (fun x hx => ?_) fun x hx => ?_
  · have hx := h.handlers x hx
    refine Handler.oneLine hx.name fun d hd => ?_
    have hd := hx.devices d hd
    exact Device.oneLine hd.name hd.filename
      fun e he => ⟨(hd.attrs e he).key, (hd.attrs e he).oneLine⟩
  · have hx := h.drivers x hx
    refine Driver.oneLine hx.name fun t ht => ?_
    have ht := hx.targets t ht
    refine Target.oneLine ht.name (fun e he => ⟨(ht.attrs e he).key, (ht.attrs e he).oneLine⟩)
      (fun g hg => ?_) fun y hy => hLuns 2 y (ht.luns y hy)
    have hg := ht.groups g hg
    exact Group.oneLine hg.name hg.initiators fun y hy => hLuns 3 y (hg.luns y hy)
  · have hx := h.deviceGroups x hx
    refine AluaDeviceGroupConfig.oneLine hx.name hx.devices fun t ht => ?_
    have ht := hx.targetGroups t ht
    exact AluaTargetGroupConfig.oneLine ht.name ht.groupId ht.targets

theorem oneLine_of_parsed {v : Text} (h : ∀ c ∈ v, isLineTerminator c = false) : OneLine v :=
  fun hMem => absurd (h _ hMem) (by decide)

theorem ParsedNumber.isWord {n : Number} (h : ParsedNumber n) : IsWord n.toText := by
  obtain ⟨digits, -, rfl⟩ := h
  exact Number.isWord_toText_parseInt digits

theorem ScstConfig.WellFormed.oneLine {c : ScstConfig} (h : c.WellFormed) :
    ∀ l ∈ c.lines, OneLine l := by
  have hLuns (n : Nat) (y : Lun) (hy : y.WellFormed) : ∀ l ∈ y.lines n, OneLine l :=
    Lun.oneLine hy.id.isWord hy.device n
  refine ScstConfig.oneLine (fun x hx => ?_) (fun x hx => ?_) fun x hx => ?_
  · have hx := h.handlers x hx
    refine Handler.oneLine hx.name fun d hd => ?_
    have hd := hx.devices d hd
    exact Device.oneLine hd.name (oneLine_of_parsed hd.filename)
      fun e he => ⟨(hd.attrs e he).1.key, oneLine_of_parsed (hd.attrs e he).1.oneLine⟩
  · have hx := h.drivers x hx
    refine Driver.oneLine hx.name fun t ht => ?_
    have ht := hx.targets t ht
    refine Target.oneLine ht.name
      (fun e he => ⟨(ht.attrs e he).key, oneLine_of_parsed (ht.attrs e he).oneLine⟩)
      (fun g hg => ?_) fun y hy => hLuns 2 y (ht.luns y hy)
    have hg := ht.groups g hg
    exact Group.oneLine hg.name hg.initiators fun y hy => hLuns 3 y (hg.luns y hy)
  · have hx := h.deviceGroups x hx
    refine AluaDeviceGroupConfig.oneLine hx.name hx.devices fun t ht => ?_
    have ht := hx.targetGroups t ht
    exact AluaTargetGroupConfig.oneLine ht.name ht.groupId.isWord ht.targets

theorem parseScstConf_intercalate {lines : List Text} (h : ∀ l ∈ lines, OneLine l) :
    parseScstConf (['\n'].intercalate lines) = (ParserState.initial.run lines).config := by
  rw [parseScstConf]
  by_cases hNil : lines = []
  · rw [hNil]
    rfl
  · rw [List.splitOn_intercalate '\n' h hNil]

theorem parseScstConf_serializeScstConfig_of_oneLine {c : ScstConfig}
    (h : ∀ l ∈ c.lines, OneLine l) :
    parseScstConf (serializeScstConfig c) = (ParserState.initial.run c.lines).config :=
  parseScstConf_intercalate h

/-- Writing a configuration and reading it again gives what is left of it when
each line is read where it was written. -/
theorem parseScstConf_serializeScstConfig {c : ScstConfig} (h : c.ScopeSafe) :
    parseScstConf (serializeScstConfig c) = c.reread := by
  rw [parseScstConf_serializeScstConfig_of_oneLine h.oneLine, ParserState.config_run_lines h]

/-- The guard of the readers changes nothing: a blank file has no entries. -/
theorem parseScstConfSafe_eq (raw : Text) : parseScstConfSafe raw = parseScstConf raw := by
  unfold parseScstConfSafe
  split
  · rename_i hBlank
    obtain ⟨p, q, hp, hq, hRaw⟩ := exists_spaces_trim raw
    rw [hBlank, List.append_nil] at hRaw
    have hSpaces : ∀ c ∈ raw, isSpace c = true := by
      intro c hc
      rw [← hRaw] at hc
      rcases List.mem_append.mp hc with hc | hc
      · exact hp c hc
      · exact hq c hc
    have hLines (lines : List Text) (h : ∀ l ∈ lines, ∀ c ∈ l, isSpace c = true)
        (st : ParserState) : st.run lines = st := by
      induction lines generalizing st with
      | nil => rfl
      | cons l lines ih =>
        have hTrim : trim l = [] := by
          simpa [show trim [] = [] from rfl] using trim_spaces_append (s := []) (h l (by simp))
        have hSkip : st.step l = st := by simp [ParserState.step, hTrim]
        rw [ParserState.run_cons, hSkip, ih fun x hx => h x (by simp [hx])]
    rw [parseScstConf, hLines _ fun l hl c hc => hSpaces c (mem_of_mem_splitOn hl hc)]
    rfl
  · rfl

end EsosWebui.Scst
