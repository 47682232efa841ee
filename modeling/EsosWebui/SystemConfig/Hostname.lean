import EsosWebui.SystemConfig.NetworkRoundTrip

/-! The host name: how it is saved in `/etc/network.conf` and how it is read from there. -/
namespace EsosWebui.SystemConfig

open Js RegExp

/-- The two patterns of the route that saves a host name. -/
def acceptsHostname (hostname domain : Text) : Bool :=
  consistsOf (fun c => c.isAlphanum || c == '-') hostname &&
    domain.all fun c => c.isAlphanum || c == '.' || c == '-'

def patchHostname (content hostname domain : Text) : Text :=
  let config : NetworkGeneralConfig :=
    if content ≠ [] then parseNetworkConf content
    else { gateway := [], nameservers := [], searchDomain := [], interfaces := [] }
  serializeNetworkConf config content hostname domain

/-- `text.indexOf(part)` -/
def indexOf (part : Text) : Text → Option Nat
  | [] => if part = [] then some 0 else none
  | c :: rest =>
    if part.isPrefixOf (c :: rest) then some 0 else (indexOf part rest).map (· + 1)

/-- `text.replace(literal, '')`, of a literal that is not empty. -/
def removeFirst (literal : Text) : Text → Text
  | [] => []
  | c :: rest =>
    if literal.isPrefixOf (c :: rest) then (c :: rest).drop literal.length
    else c :: removeFirst literal rest

def fileNotFound : Text := "__NOT_FOUND__".toList

def networkConfPath : Text := "/etc/network.conf".toList

def resolvPath : Text := "/etc/resolv.conf".toList

def fileMarker (path : Text) : Text := "===FILE:".toList ++ path ++ "===".toList

def fileOutput (path : Text) (content : Option Text) : Text :=
  fileMarker path ++ '\n' :: content.getD (fileNotFound ++ ['\n'])

/-- The part of the output that is taken for a file, up to the marker of the next one. Without
that marker the text is cut before its last character, as a negative end does. -/
def fileContent (stdout path nextPath : Text) : Text :=
  match indexOf (fileMarker path) stdout with
  | none => fileNotFound
  | some first =>
    let contentStart := first + (fileMarker path).length + 1
    let stop := (indexOf (fileMarker nextPath) stdout).getD (stdout.length - 1)
    trimEnd ((stdout.take stop).drop contentStart)

/-- The output for `/etc/network.conf` and for the files that are read after it. -/
def configOutput (networkConf : Text) (resolv : Option Text) (others : Text) : Text :=
  fileOutput networkConfPath (some networkConf) ++ (fileOutput resolvPath resolv ++ others)

/-- `/^\[general\]([\s\S]*?)(?=\[|$)/m` -/
def generalPattern : RegExp :=
  .seq (.start true)
    (.chain [.literal "[general]".toList, .group (.starLazy fun _ => true),
      .ahead (.either (.literal ['[']) (.stop true))])

/-- `/^\s*KEY\s*=\s*(.+)$/m` -/
def keyPattern (key : Text) : RegExp :=
  .seq (.start true)
    (.chain [.star isSpace, .literal key, .star isSpace, .literal ['='], .star isSpace,
      .group (.plus dot), .stop true])

/-- `block.match(pattern)?.[1]?.trim()` -/
def keyOf (key block : Text) : Option Text :=
  ((keyPattern key).match block).map fun captures => trim (captures.getD 0 [])

structure HostnameConfig where
  hostname : Text
  domain : Text
  fqdn : Text

def fqdnOf (hostname domain : Text) : Text :=
  if domain ≠ [] then hostname ++ '.' :: domain else hostname

/-- The host name of `readSystemConfig`. -/
def legacyHostname (networkConf : Text) : HostnameConfig :=
  let netRaw := removeFirst fileNotFound networkConf
  let names :=
    match generalPattern.match netRaw with
    | some captures =>
      ((keyOf hostnameKey (captures.getD 0 [])).getD [],
        (keyOf domainnameKey (captures.getD 0 [])).getD [])
    | none => ([], [])
  { hostname := names.1, domain := names.2, fqdn := fqdnOf names.1 names.2 }

/-- The names that `readSystemConfigSections` finds in the file. -/
def sectionNames (netRaw : Text) : Text × Text :=
  if netRaw ≠ [] then
    match generalPattern.match netRaw with
    | some captures =>
      ((keyOf hostnameKey (captures.getD 0 [])).getD [],
        (keyOf domainnameKey (captures.getD 0 [])).getD (parseNetworkConf netRaw).searchDomain)
    | none => ([], [])
  else ([], [])

/-- The section of `readSystemConfigSections`, with the host name that the shell prints. -/
def hostnameSection (networkConf hostnameRuntime : Text) : Except Text HostnameConfig :=
  let names := sectionNames (trim (removeFirst fileNotFound networkConf))
  let hostname := if names.1 = [] then (hostnameRuntime.splitOn '.').headD [] else names.1
  if hostname = [] then .error "Hostname introuvable dans network.conf".toList
  else .ok { hostname, domain := names.2, fqdn := fqdnOf hostname names.2 }

/-- What both readers report of a file, and what becomes of its other keys. -/
structure ReadsHostname (content written : Text) (hostname domain : Text)
    (resolv : Option Text) (others hostnameRuntime : Text) : Prop where
  legacy :
    let networkConf := fileContent (configOutput written resolv others) networkConfPath resolvPath
    legacyHostname networkConf =
      { hostname, domain, fqdn := fqdnOf hostname domain }
  sections :
    let networkConf := fileContent (configOutput written resolv others) networkConfPath resolvPath
    hostnameSection networkConf hostnameRuntime =
      .ok { hostname, domain, fqdn := fqdnOf hostname domain }
  general : KeepsUnmanaged (parseIni content) (parseIni written) generalName
    [hostnameKey, domainnameKey]
  interfaces : ∀ b ∈ interfaceSections (parseIni content),
    KeepsUnmanaged (parseIni content) (parseIni written) b.1 []

theorem not_prefix_append {part front rest : Text}
    (h : ∀ t ∈ front.tails, t ≠ [] → ¬ part <+: t ∧ ¬ t <+: part) {t : Text} (hNe : t ≠ [])
    (ht : t <:+ front) : part.isPrefixOf (t ++ rest) = false := by
  obtain ⟨hLong, hShort⟩ := h t ((List.mem_tails _ _).mpr ht) hNe
  rw [Bool.eq_false_iff, Ne, List.isPrefixOf_iff_prefix]
  intro hPrefix
  rcases List.prefix_or_prefix_of_prefix hPrefix (List.prefix_append t rest) with h | h
  · exact hLong h
  · exact hShort h

theorem indexOf_append {part front rest : Text}
    (h : ∀ t, t ≠ [] → t <:+ front → part.isPrefixOf (t ++ rest) = false) :
    indexOf part (front ++ rest) = (indexOf part rest).map (· + front.length) := by
  induction front with
  | nil => simp
  | cons c front ih =>
    have hHere := h (c :: front) (List.cons_ne_nil _ _) (List.suffix_refl _)
    rw [List.cons_append] at hHere ⊢
    rw [indexOf, hHere, if_neg (by simp),
      ih fun t hNe ht => h t hNe (ht.trans (List.suffix_cons c front)), Option.map_map]
    refine congrFun (congrArg Option.map ?_) _
    funext n
    simp only [Function.comp_apply, List.length_cons]
    omega

theorem removeFirst_append {literal front rest : Text}
    (h : ∀ t, t ≠ [] → t <:+ front → literal.isPrefixOf (t ++ rest) = false) :
    removeFirst literal (front ++ rest) = front ++ removeFirst literal rest := by
  induction front with
  | nil => rfl
  | cons c front ih =>
    have hHere := h (c :: front) (List.cons_ne_nil _ _) (List.suffix_refl _)
    rw [List.cons_append] at hHere ⊢
    rw [removeFirst, hHere, if_neg (by simp),
      ih fun t hNe ht => h t hNe (ht.trans (List.suffix_cons c front)), List.cons_append]

/-- What every written file starts with. -/
def opening : Text := unlines (preamble ++ [[]]) ++ headerLine generalName

/-- A text that starts like a written file, up to the end of a line. -/
def StartsWritten (s : Text) : Prop :=
  ∃ rest, s = opening ++ rest ∧ (rest = [] ∨ ∃ more, rest = '\n' :: more)

theorem unlines_cons (line : Text) (lines : List Text) :
    unlines (line :: lines) = line ++ '\n' :: unlines lines := by simp [unlines]

theorem exists_patchHostname_eq (content hostname domain : Text) :
    ∃ more, patchHostname content hostname domain = opening ++ '\n' :: more := by
  unfold patchHostname serializeNetworkConf opening
  dsimp only
  have hAssoc (a b c d : Text) : a ++ (b ++ '\n' :: c) ++ d = a ++ b ++ '\n' :: (c ++ d) := by simp
  rw [unlines_cons]
  exact ⟨_, hAssoc _ _ _ _⟩

theorem trimEnd_opening : trimEnd opening = opening := by decide

theorem StartsWritten.trimEnd {s : Text} (h : StartsWritten s) : StartsWritten (trimEnd s) := by
  obtain ⟨rest, rfl, hRest⟩ := h
  refine ⟨Js.trimEnd rest, trimEnd_append trimEnd_opening, ?_⟩
  obtain ⟨q, -, hSplit⟩ := exists_spaces_trimEnd rest
  cases hEnd : Js.trimEnd rest with
  | nil => exact Or.inl rfl
  | cons c tail =>
    rw [hEnd] at hSplit
    rcases hRest with rfl | ⟨more, rfl⟩
    · cases hSplit
    · exact Or.inr ⟨tail, by rw [(List.cons.inj hSplit).1]⟩

theorem startsWritten_fileContent {written : Text} (resolv : Option Text) (others : Text)
    (h : ∃ more, written = opening ++ '\n' :: more) :
    StartsWritten
      (fileContent (configOutput written resolv others) networkConfPath resolvPath) := by
  obtain ⟨more, rfl⟩ := h
  obtain ⟨tail, hTail⟩ : ∃ tail, configOutput (opening ++ '\n' :: more) resolv others =
      (fileMarker networkConfPath ++ '\n' :: (opening ++ ['\n'])) ++ (more ++ tail) ∧
        tail ≠ [] := by
    refine ⟨fileOutput resolvPath resolv ++ others, ?_, ?_⟩
    · simp [configOutput, fileOutput]
    · simp [fileOutput]
  obtain ⟨hOutput, hTail⟩ := hTail
  have hMarker : ∀ t ∈ (fileMarker networkConfPath ++ '\n' :: (opening ++ ['\n'])).tails, t ≠ [] →
      ¬ fileMarker resolvPath <+: t ∧ ¬ t <+: fileMarker resolvPath := by decide
  have hFirst : indexOf (fileMarker networkConfPath)
      (configOutput (opening ++ '\n' :: more) resolv others) = some 0 := by
    rw [hOutput]
    rfl
  have hStop : ∃ k, (indexOf (fileMarker resolvPath)
      (configOutput (opening ++ '\n' :: more) resolv others)).getD
        ((configOutput (opening ++ '\n' :: more) resolv others).length - 1) =
      (fileMarker networkConfPath ++ '\n' :: (opening ++ ['\n'])).length + k := by
    rw [hOutput, indexOf_append fun t hNe ht => not_prefix_append hMarker hNe ht]
    cases indexOf (fileMarker resolvPath) (more ++ tail) with
    | some k => exact ⟨k, Nat.add_comm _ _⟩
    | none =>
      have hLength : 0 < (more ++ tail).length := by
        rw [List.length_append]
        have := List.length_pos_of_ne_nil hTail
        omega
      refine ⟨(more ++ tail).length - 1, ?_⟩
      rw [Option.map_none, Option.getD_none, List.length_append]
      omega
  obtain ⟨k, hStop⟩ := hStop
  unfold fileContent
  rw [hFirst]
  dsimp only
  rw [hStop, hOutput, List.take_length_add_append]
  have hDrop : ((fileMarker networkConfPath ++ '\n' :: (opening ++ ['\n'])) ++
      (more ++ tail).take k).drop (0 + (fileMarker networkConfPath).length + 1) =
      opening ++ '\n' :: (more ++ tail).take k := by
    have hSplit : (fileMarker networkConfPath ++ '\n' :: (opening ++ ['\n'])) ++
        (more ++ tail).take k =
        (fileMarker networkConfPath ++ ['\n']) ++ (opening ++ '\n' :: (more ++ tail).take k) := by
      simp
    rw [hSplit]
    exact List.drop_left' (by simp)
  rw [hDrop]
  exact StartsWritten.trimEnd ⟨_, rfl, Or.inr ⟨_, rfl⟩⟩

theorem StartsWritten.removeFirst {s : Text} (h : StartsWritten s) :
    StartsWritten (removeFirst fileNotFound s) := by
  obtain ⟨rest, rfl, hRest⟩ := h
  have hAbsent : ∀ t ∈ opening.tails, t ≠ [] →
      ¬ fileNotFound <+: t ∧ ¬ t <+: fileNotFound := by decide
  refine ⟨SystemConfig.removeFirst fileNotFound rest,
    removeFirst_append fun t hNe ht => not_prefix_append hAbsent hNe ht, ?_⟩
  rcases hRest with rfl | ⟨more, rfl⟩
  · exact Or.inl rfl
  · exact Or.inr ⟨_, rfl⟩

theorem results_generalPattern_of_ne {before : Option Char} {c : Char} {s : Text} (h : c ≠ '[') :
    generalPattern.results before (c :: s) = [] := by
  rw [List.eq_nil_iff_forall_not_mem]
  intro f hf
  obtain ⟨hText, hReads⟩ := mem_results.mp hf
  obtain ⟨x, y, xs, ys, hRead, -, ⟨rfl, -, -⟩, hRest⟩ := hReads
  obtain ⟨z, rfl, -⟩ := reads_chain_literal.mp hRest
  rw [hRead] at hText
  exact h (List.cons.inj hText).1.symm

/-- The block that is taken for `[general]` ends with its first line. -/
theorem StartsWritten.match_generalPattern {s : Text} (h : StartsWritten s) :
    generalPattern.match s = some [[]] := by
  obtain ⟨rest, rfl, hRest⟩ := h
  have hAll : (unlines (preamble ++ [[]])).all (· != '[') = true := by decide
  have hNoBracket : ∀ c ∈ unlines (preamble ++ [[]]), c ≠ '[' :=
    fun c hc => bne_iff_ne.mp (List.all_eq_true.mp hAll c hc)
  have hSplit : opening ++ rest =
      unlines (preamble ++ [[]]) ++ (headerLine generalName ++ rest) := List.append_assoc _ _ _
  have hBefore : lastOf none (unlines (preamble ++ [[]])) = some '\n' := by decide
  have hResults : ∃ others, generalPattern.results (some '\n') (headerLine generalName ++ rest) =
      ⟨headerLine generalName, rest, [[]]⟩ :: others := by
    rcases hRest with rfl | ⟨more, rfl⟩
    · exact ⟨_, rfl⟩
    · exact ⟨_, rfl⟩
  rw [RegExp.match, hSplit, search_append, hBefore]
  · obtain ⟨others, hResults⟩ := hResults
    exact search_eq_of_results hResults
  · intro b c t ht
    exact results_generalPattern_of_ne (hNoBracket c (ht.subset List.mem_cons_self))

/-- The old reader finds neither name in a written file. -/
theorem legacyHostname_of_startsWritten {s : Text} (h : StartsWritten s) :
    legacyHostname s = { hostname := [], domain := [], fqdn := [] } := by
  unfold legacyHostname
  dsimp only
  rw [h.removeFirst.match_generalPattern]
  rfl

/-- A saved host name is never read back: the expression for the section stops at its first line
end, so the old reader reports an empty host name for every file that is written. -/
theorem not_readsHostname (content hostname domain : Text) (resolv : Option Text)
    (others hostnameRuntime : Text) (h : acceptsHostname hostname domain = true) :
    ¬ ReadsHostname content (patchHostname content hostname domain) hostname domain resolv others
      hostnameRuntime := by
  rintro ⟨hLegacy, -, -, -⟩
  have hWritten := startsWritten_fileContent resolv others
    (exists_patchHostname_eq content hostname domain)
  have hEmpty := (legacyHostname_of_startsWritten hWritten).symm.trans hLegacy
  have hNil : [] = hostname := congrArg HostnameConfig.hostname hEmpty
  rw [acceptsHostname, ← hNil] at h
  cases h

theorem not_readsHostname_san1 :
    ¬ ReadsHostname "[general]\nhostname = old\n".toList
      (patchHostname "[general]\nhostname = old\n".toList "san1".toList "example.com".toList)
      "san1".toList "example.com".toList none [] "san1".toList :=
  not_readsHostname _ _ _ _ _ _ (by decide)

/-- The claim of the two readers fails for a plain host name and domain. -/
theorem saved_hostname_unread :
    ¬ ∀ content hostname domain resolv others hostnameRuntime,
      acceptsHostname hostname domain = true →
        ReadsHostname content (patchHostname content hostname domain) hostname domain resolv others
          hostnameRuntime := by
  intro hAll
  have hReads := hAll [] "san1".toList "example.com".toList none [] "san1".toList (by decide)
  have hWritten := startsWritten_fileContent none []
    (exists_patchHostname_eq [] "san1".toList "example.com".toList)
  have hEmpty := (legacyHostname_of_startsWritten hWritten).symm.trans hReads.legacy
  exact absurd (congrArg HostnameConfig.hostname hEmpty) (by decide)

end EsosWebui.SystemConfig
