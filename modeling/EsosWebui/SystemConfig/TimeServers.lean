import EsosWebui.SystemConfig.MailSettings

/-! The time servers: what is written for them over an old file, and what is read of it. -/
namespace EsosWebui.SystemConfig

open Js

def isValidIPv4 (ip : Text) : Bool :=
  isDottedQuad ip && (ip.splitOn '.').all fun o => decide (Nat.ofDigitChars 10 o 0 ≤ 255)

def isHostChar (c : Char) : Bool := c.isAlphanum || c == '.' || c == '_' || c == '-'

/-- `/^[a-zA-Z0-9]([a-zA-Z0-9._-]*[a-zA-Z0-9])?$/` -/
def isNtpHost (v : Text) : Bool :=
  v.all isHostChar && v.head?.any Char.isAlphanum && v.getLast?.any Char.isAlphanum

def validateNtpServerHost (value : Text) : Option String :=
  let v := trim value
  if v = [] then some "Serveur NTP vide"
  else if 253 < utf16Length v then some "Serveur NTP trop long"
  else if hasControlOrSpace v then some "Serveur NTP invalide (caractères interdits)"
  else if isValidIPv4 v then none
  else if isNtpHost v then none
  else some "Serveur NTP invalide (hostname ou IPv4 attendu)"

/-- `/^server\s+/` -/
def isServerLine (line : Text) : Bool :=
  "server".toList.isPrefixOf line && (line.drop "server".toList.length).head?.any isSpace

/-- `l.replace(/^server\s+/, '').split(/\s+/)[0]` -/
def serverOf (line : Text) : Text :=
  ((line.drop "server".toList.length).dropWhile isSpace).takeWhile fun c => !isSpace c

def parseNtpConf (content : Text) : List Text :=
  (((lines content).filter isServerLine).map serverOf).filter (· ≠ [])

def serverLine (server : Text) : Text := "server ".toList ++ server ++ " iburst".toList

def otherLines (content : Text) : List Text := (lines content).filter fun line => !isServerLine line

def serializeNtpConf (servers : List Text) (originalContent : Text) : Text :=
  trimEnd (joinLines (otherLines originalContent)) ++ '\n' ::
    (joinLines ((servers.filter (· ≠ [])).map serverLine) ++ ['\n'])

def NtpServer : Type := { value : Text // validateNtpServerHost value = none }

structure NtpReadsBack (servers : List NtpServer) (old : Text) : Prop where
  same : parseNtpConf (serializeNtpConf (servers.map Subtype.val) old) = servers.map Subtype.val
  kept : (otherLines old).Sublist (lines (serializeNtpConf (servers.map Subtype.val) old))

/-- The line feeds that an old file may end with: the written one has as many. -/
def keptBreaks {α : Type} (servers : List α) : Nat := if servers.isEmpty then 2 else 1

/-- The other lines end with nothing but line feeds, no more than are written. -/
def EndsPlainly (servers : List NtpServer) (old : Text) : Prop :=
  ∃ n ≤ keptBreaks servers, joinLines (otherLines old) =
    trimEnd (joinLines (otherLines old)) ++ List.replicate n '\n'

theorem isPlain_of_isHostChar {c : Char} (h : isHostChar c) : IsPlain c := by
  have hSigns : c.isAlphanum = true ∨ c = '.' ∨ c = '_' ∨ c = '-' := by
    simpa [isHostChar, or_assoc] using h
  rcases hSigns with h | rfl | rfl | rfl
  · exact isPlain_of_isAlphanum h
  all_goals decide

theorem isPlainText_of_ntpServerHost {value : Text} (h : validateNtpServerHost value = none) :
    IsPlainText (trim value) := by
  dsimp only [validateNtpServerHost] at h
  split_ifs at h with hNil hLong hControl hAddress hName
  · exact ⟨hNil, isPlain_of_isDottedQuad (Bool.and_eq_true _ _ |>.mp hAddress).1⟩
  · have hChars := (Bool.and_eq_true _ _ |>.mp (Bool.and_eq_true _ _ |>.mp hName).1).1
    exact ⟨hNil, fun c hc => isPlain_of_isHostChar (List.all_eq_true.mp hChars c hc)⟩

theorem isServerLine_of_starts {line longer : Text} (hPrefix : line <+: longer)
    (h : isServerLine line) : isServerLine longer := by
  obtain ⟨rest, rfl⟩ := hPrefix
  obtain ⟨hKey, hSpace⟩ := Bool.and_eq_true _ _ |>.mp h
  obtain ⟨tail, rfl⟩ := List.isPrefixOf_iff_prefix.mp hKey
  rw [List.drop_left] at hSpace
  cases tail with
  | nil => exact absurd hSpace (by decide)
  | cons c tail =>
    refine Bool.and_eq_true _ _ |>.mpr ⟨?_, ?_⟩
    · rw [List.append_assoc]
      exact List.isPrefixOf_iff_prefix.mpr (List.prefix_append _ _)
    · rw [List.append_assoc, List.drop_left]
      exact hSpace

section

variable (old : Text)

def keptText : Text := trimEnd (joinLines (otherLines old))

theorem newline_not_mem_of_mem_otherLines {line : Text} (h : line ∈ otherLines old) :
    '\n' ∉ line := newline_not_mem_of_mem_lines (List.mem_filter.mp h).1

theorem isServerLine_of_mem_lines_joinLines {line : Text}
    (h : line ∈ lines (joinLines (otherLines old))) : isServerLine line = false := by
  by_cases hNil : otherLines old = []
  · rw [hNil] at h
    obtain rfl : line = [] := List.mem_singleton.mp h
    rfl
  · rw [lines_joinLines (fun _ => newline_not_mem_of_mem_otherLines old) hNil] at h
    simpa using (List.mem_filter.mp h).2

theorem isServerLine_of_mem_lines_keptText {line : Text} (h : line ∈ lines (keptText old)) :
    isServerLine line = false := by
  obtain ⟨spaces, -, hSplit⟩ := exists_spaces_trimEnd (joinLines (otherLines old))
  obtain ⟨longer, hLonger, hPrefix⟩ := exists_line_of_append spaces h
  rw [keptText, hSplit] at hLonger
  have hOther := isServerLine_of_mem_lines_joinLines old hLonger
  cases hServer : isServerLine line with
  | false => rfl
  | true => exact absurd (isServerLine_of_starts hPrefix hServer) (by simp [hOther])

theorem isWord_of_mem_parseNtpConf {content server : Text} (h : server ∈ parseNtpConf content) :
    IsWord server := by
  obtain ⟨hMem, hNe⟩ := List.mem_filter.mp h
  obtain ⟨line, -, rfl⟩ := List.mem_map.mp hMem
  refine ⟨by simpa using hNe, fun c hc => ?_⟩
  simpa using List.mem_takeWhile_imp hc

theorem isServerLine_serverLine (server : Text) : isServerLine (serverLine server) := rfl

theorem serverOf_serverLine {server : Text} (h : IsWord server) :
    serverOf (serverLine server) = server := by
  obtain ⟨c, rest, rfl⟩ := List.exists_cons_of_ne_nil h.ne_nil
  have hc : isSpace c = false := h.2 c List.mem_cons_self
  have hLine : (serverLine (c :: rest)).drop "server".toList.length =
      ' ' :: ((c :: rest) ++ " iburst".toList) := rfl
  have hSpaces : (' ' :: ((c :: rest) ++ " iburst".toList)).dropWhile isSpace =
      (c :: rest) ++ " iburst".toList := by
    rw [List.dropWhile_cons_of_pos (by decide), List.cons_append,
      List.dropWhile_cons_of_neg (by simp [hc])]
  have hEnd : (" iburst".toList).takeWhile (fun d => !isSpace d) = [] := by decide
  rw [serverOf, hLine, hSpaces,
    List.takeWhile_append_of_pos fun d hd => by simp [h.2 d hd], hEnd, List.append_nil]

theorem newline_not_mem_serverLine {server : Text} (h : IsWord server) :
    '\n' ∉ serverLine server := by
  intro hMem
  rcases List.mem_append.mp hMem with hMem | hMem
  · rcases List.mem_append.mp hMem with hMem | hMem
    · exact absurd hMem (by decide)
    · exact absurd (h.2 _ hMem) (by decide)
  · exact absurd hMem (by decide)

section

variable {servers : List Text} (hWords : ∀ s ∈ servers, IsWord s)
include hWords

theorem filter_ne_nil_of_isWord : servers.filter (· ≠ []) = servers :=
  List.filter_eq_self.mpr fun s hs => by simpa using (hWords s hs).ne_nil

theorem lines_serializeNtpConf : lines (serializeNtpConf servers old) =
    lines (keptText old) ++
      (servers.map serverLine ++ List.replicate (keptBreaks servers) []) := by
  have hLines : ∀ line ∈ servers.map serverLine, '\n' ∉ line := by
    intro line hLine
    obtain ⟨server, hServer, rfl⟩ := List.mem_map.mp hLine
    exact newline_not_mem_serverLine (hWords server hServer)
  rw [serializeNtpConf, filter_ne_nil_of_isWord hWords, lines_append_newline,
    lines_append_newline, keptText]
  cases servers with
  | nil => rfl
  | cons server rest =>
    rw [lines_joinLines hLines (by simp)]
    rfl

theorem parseNtpConf_serializeNtpConf : parseNtpConf (serializeNtpConf servers old) = servers := by
  have hKept : (lines (keptText old)).filter isServerLine = [] :=
    List.filter_eq_nil_iff.mpr fun line hLine => by
      simp [isServerLine_of_mem_lines_keptText old hLine]
  have hServers : (servers.map serverLine).filter isServerLine = servers.map serverLine :=
    List.filter_eq_self.mpr fun line hLine => by
      obtain ⟨server, -, rfl⟩ := List.mem_map.mp hLine
      exact isServerLine_serverLine server
  have hBlank : (List.replicate (keptBreaks servers) ([] : Text)).filter isServerLine = [] :=
    List.filter_eq_nil_iff.mpr fun line hLine => by
      rw [(List.mem_replicate.mp hLine).2]
      decide
  have hMap : (servers.map serverLine).map serverOf = servers := by
    have hEach : ∀ s ∈ servers, (serverOf ∘ serverLine) s = id s := fun s hs =>
      serverOf_serverLine (hWords s hs)
    rw [List.map_map, List.map_congr_left hEach, List.map_id]
  rw [parseNtpConf, lines_serializeNtpConf old hWords, List.filter_append, List.filter_append,
    hKept, hServers, hBlank, List.nil_append, List.append_nil, hMap,
    filter_ne_nil_of_isWord hWords]

end

theorem otherLines_eq (h : otherLines old ≠ []) :
    otherLines old = lines (joinLines (otherLines old)) :=
  (lines_joinLines (fun _ => newline_not_mem_of_mem_otherLines old) h).symm

/-- The other lines are kept exactly when what is trimmed behind them are line feeds, no more than
are written again. -/
theorem otherLines_sublist_iff {servers : List Text} (hWords : ∀ s ∈ servers, IsWord s) :
    (otherLines old).Sublist (lines (serializeNtpConf servers old)) ↔
      ∃ n ≤ keptBreaks servers,
        joinLines (otherLines old) = keptText old ++ List.replicate n '\n' := by
  obtain ⟨spaces, -, hSplit⟩ := exists_spaces_trimEnd (joinLines (otherLines old))
  constructor
  · intro h
    by_cases hNil : otherLines old = []
    · exact ⟨0, Nat.zero_le _, by rw [keptText, hNil]; rfl⟩
    · have hOthers := h.filter fun line => !isServerLine line
      have hAll : (otherLines old).filter (fun line => !isServerLine line) = otherLines old :=
        List.filter_eq_self.mpr fun line hLine => (List.mem_filter.mp hLine).2
      have hKept : (lines (keptText old)).filter (fun line => !isServerLine line) =
          lines (keptText old) :=
        List.filter_eq_self.mpr fun line hLine => by
          simp [isServerLine_of_mem_lines_keptText old hLine]
      have hServers : (servers.map serverLine).filter (fun line => !isServerLine line) = [] :=
        List.filter_eq_nil_iff.mpr fun line hLine => by
          obtain ⟨server, -, rfl⟩ := List.mem_map.mp hLine
          simp [isServerLine_serverLine]
      have hBlank : (List.replicate (keptBreaks servers) ([] : Text)).filter
          (fun line => !isServerLine line) = List.replicate (keptBreaks servers) [] :=
        List.filter_eq_self.mpr fun line hLine => by
          rw [(List.mem_replicate.mp hLine).2]
          decide
      rw [lines_serializeNtpConf old hWords, List.filter_append, List.filter_append, hAll, hKept,
        hServers, hBlank, List.nil_append, otherLines_eq old hNil, ← hSplit] at hOthers
      obtain ⟨hLength, hSpaces⟩ := eq_replicate_of_sublist hOthers
      refine ⟨spaces.length, hLength, ?_⟩
      rw [← hSpaces]
      exact hSplit.symm
  · rintro ⟨n, hn, hJoin⟩
    by_cases hNil : otherLines old = []
    · rw [hNil]
      exact List.nil_sublist _
    · rw [otherLines_eq old hNil, hJoin, lines_append_replicate_newline,
        lines_serializeNtpConf old hWords]
      refine List.Sublist.append_left ?_ _
      exact ((List.replicate_sublist_replicate []).mpr hn).trans (List.sublist_append_right _ _)

end

theorem NtpServer.isPlainText (server : NtpServer) : IsPlainText (trim server.val) :=
  isPlainText_of_ntpServerHost server.property

theorem ntpReadsBack_iff (servers : List NtpServer) (old : Text) :
    NtpReadsBack servers old ↔
      (∀ server ∈ servers, trim server.val = server.val) ∧ EndsPlainly servers old := by
  have hBreaks : keptBreaks (servers.map Subtype.val) = keptBreaks servers := by
    cases servers with
    | nil => rfl
    | cons server rest => rfl
  have hWords (hTrim : ∀ server ∈ servers, trim server.val = server.val) :
      ∀ s ∈ servers.map Subtype.val, IsWord s := by
    intro s hs
    obtain ⟨server, hServer, rfl⟩ := List.mem_map.mp hs
    exact hTrim server hServer ▸ (NtpServer.isPlainText server).isWord
  constructor
  · intro h
    have hTrim : ∀ server ∈ servers, trim server.val = server.val := by
      intro server hServer
      have hMem : server.val ∈ parseNtpConf (serializeNtpConf (servers.map Subtype.val) old) :=
        h.same.symm ▸ List.mem_map_of_mem hServer
      exact (isWord_of_mem_parseNtpConf hMem).trim_eq
    obtain ⟨n, hn, hJoin⟩ := (otherLines_sublist_iff old (hWords hTrim)).mp h.kept
    exact ⟨hTrim, n, hBreaks ▸ hn, hJoin⟩
  · rintro ⟨hTrim, n, hn, hJoin⟩
    exact
      { same := parseNtpConf_serializeNtpConf old (hWords hTrim)
        kept := (otherLines_sublist_iff old (hWords hTrim)).mpr ⟨n, hBreaks ▸ hn, hJoin⟩ }

/-- The mail settings are read back as they were sent exactly when the address and the server were
sent trimmed and the old file shows one password, and as they were checked exactly when no line feed
stands before the address or the server; the time servers exactly when each was sent trimmed and the
old file ends plainly. -/
theorem settings_read_back_iff (form : SmtpForm) (oldMail : Text) (servers : List NtpServer)
    (oldTime : Text) :
    (SmtpReadsBack id form oldMail ↔
        trim form.alertEmail = form.alertEmail ∧ trim form.mailHub = form.mailHub ∧
          (form.authPass = [] → OnePassword oldMail)) ∧
      (SmtpReadsBack trim form oldMail ↔
        StartsOnItsLine form.alertEmail ∧ StartsOnItsLine form.mailHub ∧
          (form.authPass = [] → OnePassword oldMail)) ∧
      (NtpReadsBack servers oldTime ↔
        (∀ server ∈ servers, trim server.val = server.val) ∧ EndsPlainly servers oldTime) := by
  refine ⟨?_, ?_, ntpReadsBack_iff servers oldTime⟩
  · rw [smtpReadsBack_iff, id, id, shownValue_eq_self_iff form.isWord_alertEmail,
      shownValue_eq_self_iff form.isWord_mailHub]
  · rw [smtpReadsBack_iff, shownValue_eq_trim_iff form.isWord_alertEmail,
      shownValue_eq_trim_iff form.isWord_mailHub]

def plainForm : SmtpForm where
  alertEmail := "a@b.co".toList
  mailHub := "mail.b.co".toList
  alertEmail_ok := by decide
  mailHub_ok := by decide
  authUser_ok := by decide
  authPass_ok := by decide

/-- A password that was written with blanks around its equals sign is gone after a form with an
empty password field. -/
theorem blankPassword_lost :
    ¬ SmtpReadsBack id plainForm "AuthPass = secret\n".toList ∧
      ¬ SmtpReadsBack trim plainForm "AuthPass = secret\n".toList := by
  have hOther : storedPassword (patchedSsmtpConf plainForm "AuthPass = secret\n".toList) ≠
      storedPassword "AuthPass = secret\n".toList := by decide
  exact ⟨fun h => hOther (h.password rfl), fun h => hOther (h.password rfl)⟩

end EsosWebui.SystemConfig