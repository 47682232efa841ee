import EsosWebui.Js.Lines
import EsosWebui.Js.ParseInt

/-! The mail settings: what is checked of a form, what is written for it, and what the written file
is read as. -/
namespace EsosWebui.SystemConfig

open Js

/-- `/[\x00-\x20\x7F]/` -/
def hasControlOrSpace (v : Text) : Bool := v.any fun c => c.toNat ≤ 32 || c.toNat == 127

def isMailLocalChar (c : Char) : Bool := c.isAlphanum || "._%+-".toList.contains c

def isMailDomainChar (c : Char) : Bool := c.isAlphanum || c == '.' || c == '-'

/-- `[a-zA-Z0-9.-]+\.[a-zA-Z]{2,63}` -/
def isMailDomain (domain : Text) : Bool :=
  let top := domain.rtakeWhile Char.isAlpha
  let before := domain.rdropWhile Char.isAlpha
  decide (2 ≤ top.length) && decide (top.length ≤ 63) && before.getLast? == some '.' &&
    decide (2 ≤ before.length) && before.all isMailDomainChar

/-- `/^[a-zA-Z0-9._%+-]{1,64}@[a-zA-Z0-9.-]+\.[a-zA-Z]{2,63}$/` -/
def isMailAddress (v : Text) : Bool :=
  let localPart := v.takeWhile isMailLocalChar
  match v.dropWhile isMailLocalChar with
  | '@' :: domain =>
    decide (1 ≤ localPart.length) && decide (localPart.length ≤ 64) && isMailDomain domain
  | _ => false

def validateSafeSmtpEmail (value : Text) : Option String :=
  let v := trim value
  if v = [] then some "Adresse email vide"
  else if 254 < utf16Length v then some "Adresse email trop longue"
  else if hasControlOrSpace v then some "Adresse email invalide (caractères interdits)"
  else if !isMailAddress v then some "Adresse email invalide"
  else none

/-- `(:[0-9]{1,5})?` -/
def isHubPort : Text → Bool
  | [] => true
  | c :: digits => c == ':' && isDigits digits && decide (digits.length ≤ 5)

/-- `(?:\d{1,3}\.){3}\d{1,3}` -/
def isDottedQuad (v : Text) : Bool :=
  let parts := v.splitOn '.'
  parts.length == 4 && parts.all fun p => isDigits p && decide (p.length ≤ 3)

def isHubName : Text → Bool
  | c :: rest => c.isAlpha && rest.all isMailDomainChar
  | [] => false

def isIpv6Char (c : Char) : Bool :=
  c.isDigit || "abcdefABCDEF".toList.contains c || c == ':' || c == '.'

/-- `/^(\[[0-9a-fA-F:.]+\]|(?:\d{1,3}\.){3}\d{1,3}|[a-zA-Z][a-zA-Z0-9.-]*)(:[0-9]{1,5})?$/` -/
def isMailHub (v : Text) : Bool :=
  match v with
  | '[' :: rest =>
    let inner := rest.takeWhile isIpv6Char
    match rest.dropWhile isIpv6Char with
    | ']' :: port => !inner.isEmpty && isHubPort port
    | _ => false
  | _ =>
    let host := v.takeWhile (· != ':')
    (isDottedQuad host || isHubName host) && isHubPort (v.dropWhile (· != ':'))

def validateSafeSmtpMailHub (value : Text) : Option String :=
  let v := trim value
  if v = [] then some "Serveur SMTP (mailhub) requis"
  else if 255 < utf16Length v then some "mailhub trop long"
  else if hasControlOrSpace v then some "mailhub invalide (caractères interdits)"
  else if !isMailHub v then some "mailhub invalide"
  else none

def isAuthUserChar (c : Char) : Bool := c.isAlphanum || "._@+%-".toList.contains c

def validateSafeSmtpAuthUser (value : Text) : Option String :=
  if value = [] then none
  else if 128 < utf16Length value then some "AuthUser trop long"
  else if hasControlOrSpace value then some "AuthUser invalide (caractères interdits)"
  else if !value.all isAuthUserChar then some "AuthUser invalide"
  else none

def validateSmtpAuthPass (value : Text) : Option String :=
  if value = [] then none
  else if 512 < utf16Length value then some "Mot de passe SMTP trop long"
  else if '\r' ∈ value ∨ '\n' ∈ value ∨ '\x00' ∈ value then some "Mot de passe SMTP invalide"
  else none

inductive SmtpAuthMethod where
  | login
  | plain
  | cramMd5

def SmtpAuthMethod.text : SmtpAuthMethod → Text
  | .login => "LOGIN".toList
  | .plain => "PLAIN".toList
  | .cramMd5 => "CRAM-MD5".toList

structure SmtpConfig where
  alertEmail : Text
  mailHub : Text
  authUser : Text
  authPass : Text
  useTLS : Bool
  useSTARTTLS : Bool
  authMethod : Text
  fromOverride : Bool

/-- A form that the route accepts. A method that is missing, empty or `none` is none. -/
structure SmtpForm where
  alertEmail : Text
  mailHub : Text
  authUser : Text := []
  authPass : Text := []
  useTLS : Bool := false
  useSTARTTLS : Bool := false
  authMethod : Option SmtpAuthMethod := none
  fromOverride : Bool := true
  alertEmail_ok : validateSafeSmtpEmail alertEmail = none
  mailHub_ok : validateSafeSmtpMailHub mailHub = none
  authUser_ok : validateSafeSmtpAuthUser authUser = none
  authPass_ok : validateSmtpAuthPass authPass = none

/-- What `/\s*=\s*(.+)/` captures behind the equals sign, trimmed. When only white space follows, a
part of it is given back to the group. -/
def confValue (after : Text) : Option Text :=
  match after.dropWhile isSpace with
  | [] => if after.any fun c => !isLineTerminator c then some [] else none
  | c :: rest => some (trim ((c :: rest).takeWhile fun c => !isLineTerminator c))

/-- `/^([A-Za-z]+)\s*=\s*(.+)/` -/
def confEntry (line : Text) : Option (Text × Text) :=
  let key := line.takeWhile Char.isAlpha
  if key = [] then none
  else
    match (line.dropWhile Char.isAlpha).dropWhile isSpace with
    | '=' :: after => (confValue after).map fun value => (key, value)
    | _ => none

def confEntries (content : Text) : List (Text × Text) := (lines content).filterMap confEntry

/-- `kv.get(key)`: the last entry has been set last. -/
def confGet (key : Text) (entries : List (Text × Text)) : Option Text :=
  (entries.reverse.find? fun e => e.1 = key).map Prod.snd

def yes : Text := "YES".toList

def parseSsmtpConf (content : Text) : SmtpConfig :=
  let kv := confEntries content
  { alertEmail := (confGet "root".toList kv).getD []
    mailHub := (confGet "mailhub".toList kv).getD []
    authUser := (confGet "AuthUser".toList kv).getD []
    authPass := []
    useTLS := confGet "UseTLS".toList kv == some yes
    useSTARTTLS := confGet "UseSTARTTLS".toList kv == some yes
    authMethod := (confGet "AuthMethod".toList kv).getD []
    fromOverride := confGet "FromLineOverride".toList kv == some yes }

def unlessEmpty (value : Text) : Option Text := if value = [] then none else some value

/-- The keys of the file in their order, with the values that are written. -/
def confFields (config : SmtpConfig) : List (Text × Option Text) :=
  [("root".toList, some config.alertEmail),
    ("mailhub".toList, some config.mailHub),
    ("FromLineOverride".toList, some (if config.fromOverride then yes else "NO".toList)),
    ("AuthUser".toList, unlessEmpty config.authUser),
    ("AuthPass".toList, unlessEmpty config.authPass),
    ("AuthMethod".toList, unlessEmpty config.authMethod),
    ("UseTLS".toList, if config.useTLS then some yes else none),
    ("UseSTARTTLS".toList, if config.useSTARTTLS then some yes else none)]

def confLine (field : Text × Option Text) : Option Text :=
  field.2.map fun value => field.1 ++ '=' :: value

def serializeSsmtpConf (config : SmtpConfig) : Text :=
  joinLines ((confFields config).filterMap confLine) ++ ['\n']

/-- `/^AuthPass=(.+)/` on a line, with the group trimmed. -/
def plainPassword (line : Text) : Option Text :=
  if "AuthPass=".toList.isPrefixOf line ∧ line.length ≠ "AuthPass=".toList.length then
    some (trim (line.drop "AuthPass=".toList.length))
  else none

/-- `content.match(/^AuthPass=(.+)/m)`: the first line that has one. -/
def routePassword (content : Text) : Option Text :=
  (content.splitOnP isLineTerminator).findSome? plainPassword

def smtpConfig (form : SmtpForm) (old : Text) : SmtpConfig :=
  { alertEmail := form.alertEmail
    mailHub := form.mailHub
    authUser := form.authUser
    authPass := if form.authPass = [] then (routePassword old).getD [] else form.authPass
    useTLS := form.useTLS
    useSTARTTLS := form.useSTARTTLS
    authMethod := (form.authMethod.map SmtpAuthMethod.text).getD []
    fromOverride := form.fromOverride }

def patchedSsmtpConf (form : SmtpForm) (old : Text) : Text :=
  serializeSsmtpConf (smtpConfig form old)

/-- The password of a file, as the parser reads the other keys. -/
def storedPassword (content : Text) : Text :=
  (confGet "AuthPass".toList (confEntries content)).getD []

/-- The written file is read as the form, where `shown` is how its address and its server count:
as they are, or trimmed. -/
structure SmtpReadsBack (shown : Text → Text) (form : SmtpForm) (old : Text) : Prop where
  alertEmail : (parseSsmtpConf (patchedSsmtpConf form old)).alertEmail = shown form.alertEmail
  mailHub : (parseSsmtpConf (patchedSsmtpConf form old)).mailHub = shown form.mailHub
  authUser : (parseSsmtpConf (patchedSsmtpConf form old)).authUser = form.authUser
  useTLS : (parseSsmtpConf (patchedSsmtpConf form old)).useTLS = form.useTLS
  useSTARTTLS : (parseSsmtpConf (patchedSsmtpConf form old)).useSTARTTLS = form.useSTARTTLS
  authMethod : (parseSsmtpConf (patchedSsmtpConf form old)).authMethod =
    (form.authMethod.map SmtpAuthMethod.text).getD []
  fromOverride : (parseSsmtpConf (patchedSsmtpConf form old)).fromOverride = form.fromOverride
  password : form.authPass = [] →
    storedPassword (patchedSsmtpConf form old) = storedPassword old

/-- The passwords that stand in a file behind `AuthPass=` at the start of a line. -/
def plainPasswords (content : Text) : List Text :=
  (content.splitOnP isLineTerminator).filterMap plainPassword

/-- The passwords that the parser meets, one after the other. -/
def passwordEntries (content : Text) : List Text :=
  ((confEntries content).filter fun e => e.1 = "AuthPass".toList).map Prod.snd

/-- The first password behind a plain `AuthPass=` is the last password that the file sets, or the
file has neither. -/
def OnePassword (content : Text) : Prop :=
  (plainPasswords content).head?.getD [] = (passwordEntries content).getLast?.getD []

/-- No line feed stands before the text. -/
def StartsOnItsLine (value : Text) : Prop := '\n' ∉ value.takeWhile isSpace

/-- A character that neither ends a word nor a key. -/
def IsPlain (c : Char) : Prop := isSpace c = false ∧ c ≠ '='

instance (c : Char) : Decidable (IsPlain c) := inferInstanceAs (Decidable (_ ∧ _))

theorem isPlain_of_isAlphanum {c : Char} (h : c.isAlphanum) : IsPlain c := by
  refine ⟨(isGraphic_of_isAlphanum h).isSpace, ?_⟩
  rintro rfl
  exact absurd h (by decide)

theorem isPlain_of_isDigit {c : Char} (h : c.isDigit) : IsPlain c :=
  isPlain_of_isAlphanum (by simp [Char.isAlphanum, h])

theorem isPlain_of_isAlpha {c : Char} (h : c.isAlpha) : IsPlain c :=
  isPlain_of_isAlphanum (by simp [Char.isAlphanum, h])

theorem isPlain_of_mem {c : Char} {signs : Text} (hSigns : (signs.all fun d => IsPlain d))
    (h : c ∈ signs) : IsPlain c := by
  simpa using List.all_eq_true.mp hSigns c h

theorem isPlain_of_isMailLocalChar {c : Char} (h : isMailLocalChar c) : IsPlain c := by
  rcases Bool.or_eq_true _ _ |>.mp h with h | h
  · exact isPlain_of_isAlphanum h
  · exact isPlain_of_mem (by decide) (List.contains_iff_mem.mp h)

theorem isPlain_of_isAuthUserChar {c : Char} (h : isAuthUserChar c) : IsPlain c := by
  rcases Bool.or_eq_true _ _ |>.mp h with h | h
  · exact isPlain_of_isAlphanum h
  · exact isPlain_of_mem (by decide) (List.contains_iff_mem.mp h)

theorem isPlain_of_isMailDomainChar {c : Char} (h : isMailDomainChar c) : IsPlain c := by
  rcases Bool.or_eq_true _ _ |>.mp h with h | h
  · rcases Bool.or_eq_true _ _ |>.mp h with h | h
    · exact isPlain_of_isAlphanum h
    · obtain rfl := beq_iff_eq.mp h
      decide
  · obtain rfl := beq_iff_eq.mp h
    decide

theorem isPlain_of_isIpv6Char {c : Char} (h : isIpv6Char c) : IsPlain c := by
  have hCases : c.isDigit = true ∨ c ∈ "abcdefABCDEF".toList ∨ c = ':' ∨ c = '.' := by
    simpa [isIpv6Char, or_assoc] using h
  rcases hCases with h | h | rfl | rfl
  · exact isPlain_of_isDigit h
  · exact isPlain_of_mem (by decide) h
  all_goals decide

theorem isPlain_of_isDigits {s : Text} (h : isDigits s) : ∀ c ∈ s, IsPlain c := by
  obtain ⟨-, hAll⟩ : s ≠ [] ∧ ∀ c ∈ s, c.isDigit = true := by simpa [isDigits] using h
  exact fun c hc => isPlain_of_isDigit (hAll c hc)

theorem isPlain_of_isMailDomain {domain : Text} (h : isMailDomain domain) :
    ∀ c ∈ domain, IsPlain c := by
  obtain ⟨-, hBefore⟩ := Bool.and_eq_true _ _ |>.mp h
  have hSplit : domain.rdropWhile Char.isAlpha ++ domain.rtakeWhile Char.isAlpha = domain :=
    List.rdropWhile_append_rtakeWhile
  intro c hc
  rcases List.mem_append.mp (hSplit ▸ hc) with hc | hc
  · exact isPlain_of_isMailDomainChar (List.all_eq_true.mp hBefore c hc)
  · exact isPlain_of_isAlpha (List.mem_rtakeWhile_imp hc)

theorem isPlain_of_isMailAddress {v : Text} (h : isMailAddress v) :
    ∀ c ∈ v, IsPlain c := by
  dsimp only [isMailAddress] at h
  split at h
  · rename_i domain hRest
    obtain ⟨-, hDomain⟩ := Bool.and_eq_true _ _ |>.mp h
    intro c hc
    rw [← List.takeWhile_append_dropWhile (p := isMailLocalChar) (l := v), hRest] at hc
    rcases List.mem_append.mp hc with hc | hc
    · exact isPlain_of_isMailLocalChar (List.mem_takeWhile_imp hc)
    · rcases List.mem_cons.mp hc with rfl | hc
      · decide
      · exact isPlain_of_isMailDomain hDomain c hc
  · exact absurd h (by decide)

theorem isPlain_of_isHubPort {port : Text} (h : isHubPort port) : ∀ c ∈ port, IsPlain c := by
  cases port with
  | nil => simp
  | cons sign digits =>
    obtain ⟨hSign, hDigits⟩ := Bool.and_eq_true _ _ |>.mp (Bool.and_eq_true _ _ |>.mp h).1
    intro c hc
    rcases List.mem_cons.mp hc with rfl | hc
    · obtain rfl := beq_iff_eq.mp hSign
      decide
    · exact isPlain_of_isDigits hDigits c hc

theorem isPlain_of_isDottedQuad {v : Text} (h : isDottedQuad v) : ∀ c ∈ v, IsPlain c := by
  obtain ⟨-, hParts⟩ := Bool.and_eq_true _ _ |>.mp h
  intro c hc
  by_cases hDot : c = '.'
  · subst hDot
    decide
  · obtain hSep | ⟨part, hPart, hMem⟩ := mem_splitOn_or '.' hc
    · exact absurd hSep hDot
    · have hDigits := (Bool.and_eq_true _ _ |>.mp (List.all_eq_true.mp hParts part hPart)).1
      exact isPlain_of_isDigits hDigits c hMem

theorem isPlain_of_isHubName {v : Text} (h : isHubName v) : ∀ c ∈ v, IsPlain c := by
  cases v with
  | nil => simp
  | cons first rest =>
    obtain ⟨hFirst, hRest⟩ := Bool.and_eq_true _ _ |>.mp h
    intro c hc
    rcases List.mem_cons.mp hc with rfl | hc
    · exact isPlain_of_isAlpha hFirst
    · exact isPlain_of_isMailDomainChar (List.all_eq_true.mp hRest c hc)

theorem isPlain_of_isMailHub {v : Text} (h : isMailHub v) : ∀ c ∈ v, IsPlain c := by
  intro c hc
  dsimp only [isMailHub] at h
  split at h
  · rename_i rest
    split at h
    · rename_i port hRest
      obtain ⟨-, hPort⟩ := Bool.and_eq_true _ _ |>.mp h
      rcases List.mem_cons.mp hc with rfl | hc
      · decide
      · rw [← List.takeWhile_append_dropWhile (p := isIpv6Char) (l := rest), hRest] at hc
        rcases List.mem_append.mp hc with hc | hc
        · exact isPlain_of_isIpv6Char (List.mem_takeWhile_imp hc)
        · rcases List.mem_cons.mp hc with rfl | hc
          · decide
          · exact isPlain_of_isHubPort hPort c hc
    · exact absurd h (by decide)
  · obtain ⟨hHost, hPort⟩ := Bool.and_eq_true _ _ |>.mp h
    rw [← List.takeWhile_append_dropWhile (p := (· != ':')) (l := v)] at hc
    rcases List.mem_append.mp hc with hc | hc
    · rcases Bool.or_eq_true _ _ |>.mp hHost with hHost | hHost
      · exact isPlain_of_isDottedQuad hHost c hc
      · exact isPlain_of_isHubName hHost c hc
    · exact isPlain_of_isHubPort hPort c hc

/-- The texts that the checks let through, once they are trimmed. -/
def IsPlainText (v : Text) : Prop := v ≠ [] ∧ ∀ c ∈ v, IsPlain c

theorem IsPlainText.isWord {v : Text} (h : IsPlainText v) : IsWord v :=
  ⟨h.1, fun c hc => (h.2 c hc).1⟩

variable {value : Text}

theorem isPlainText_of_safeSmtpEmail (h : validateSafeSmtpEmail value = none) :
    IsPlainText (trim value) := by
  dsimp only [validateSafeSmtpEmail] at h
  split_ifs at h with hNil hLong hControl hShape
  exact ⟨hNil, isPlain_of_isMailAddress (by simpa using hShape)⟩

theorem isPlainText_of_safeSmtpMailHub (h : validateSafeSmtpMailHub value = none) :
    IsPlainText (trim value) := by
  dsimp only [validateSafeSmtpMailHub] at h
  split_ifs at h with hNil hLong hControl hShape
  exact ⟨hNil, isPlain_of_isMailHub (by simpa using hShape)⟩

theorem isPlainText_of_safeSmtpAuthUser (h : validateSafeSmtpAuthUser value = none)
    (hNe : value ≠ []) : IsPlainText value := by
  dsimp only [validateSafeSmtpAuthUser] at h
  rw [if_neg hNe] at h
  split_ifs at h with hLong hControl hShape
  have hAll : ∀ c ∈ value, isAuthUserChar c = true := by simpa using hShape
  exact ⟨hNe, fun c hc => isPlain_of_isAuthUserChar (hAll c hc)⟩

theorem equals_not_mem_of_isPlainText (h : IsPlainText (trim value)) : '=' ∉ value := by
  obtain ⟨p, q, hp, hq, hValue⟩ := exists_spaces_trim value
  intro hMem
  rw [← hValue] at hMem
  rcases List.mem_append.mp hMem with hMem | hMem
  · rcases List.mem_append.mp hMem with hMem | hMem
    · exact absurd (hp _ hMem) (by decide)
    · exact (h.2 _ hMem).2 rfl
  · exact absurd (hq _ hMem) (by decide)

theorem takeWhile_newline_of_not_mem (h : '\n' ∉ value) : value.takeWhile (· != '\n') = value :=
  List.takeWhile_eq_self_iff.mpr fun _ hc => bne_iff_ne.mpr (ne_of_mem_of_not_mem hc h)

/-- The part of a value that stands on the line of its key. -/
def readValue (value : Text) : Option Text := confValue (value.takeWhile (· != '\n'))

theorem confEntry_of_equals_not_mem {line : Text} (h : '=' ∉ line) : confEntry line = none := by
  have hRest : '=' ∉ (line.dropWhile Char.isAlpha).dropWhile isSpace := fun hMem =>
    h ((List.dropWhile_suffix _).subset ((List.dropWhile_suffix _).subset hMem))
  dsimp only [confEntry]
  split_ifs
  · rfl
  · split
    · rename_i after hSplit
      exact absurd (hSplit ▸ List.mem_cons_self) hRest
    · rfl

theorem confEntry_append {key : Text} (hKey : ∀ c ∈ key, c.isAlpha = true) (hNe : key ≠ [])
    (after : Text) : confEntry (key ++ '=' :: after) = (confValue after).map fun v => (key, v) := by
  have hTake : (key ++ '=' :: after).takeWhile Char.isAlpha = key := by
    rw [List.takeWhile_append_of_pos hKey]
    simp [show ('=' : Char).isAlpha = false by decide]
  have hDrop : (key ++ '=' :: after).dropWhile Char.isAlpha = '=' :: after := by
    rw [List.dropWhile_append_of_pos hKey]
    simp [show ('=' : Char).isAlpha = false by decide]
  have hSpace : ('=' :: after).dropWhile isSpace = '=' :: after :=
    List.dropWhile_cons_of_neg (by decide)
  dsimp only [confEntry]
  rw [hTake, hDrop, hSpace, if_neg hNe]
  rfl

theorem confEntries_eq_nil {text : Text} (h : '=' ∉ text) : confEntries text = [] := by
  refine List.filterMap_eq_nil_iff.mpr fun line hLine => confEntry_of_equals_not_mem ?_
  intro hMem
  apply h
  rw [← joinLines_lines text]
  exact mem_intercalate_of_mem hLine hMem

theorem confEntries_append_newline (a b : Text) :
    confEntries (a ++ '\n' :: b) = confEntries a ++ confEntries b := by
  rw [confEntries, lines_append_newline, List.filterMap_append]
  rfl

theorem confEntries_file {ls : List Text} (hNe : ls ≠ []) :
    confEntries (joinLines ls ++ ['\n']) = ls.flatMap confEntries := by
  have hEnd : confEntries [] = [] := confEntries_eq_nil List.not_mem_nil
  rw [confEntries_append_newline, hEnd, List.append_nil, confEntries, lines_joinLines_flatMap hNe,
    List.filterMap_flatMap]
  rfl

theorem confEntries_line {line : Text} (h : '\n' ∉ line) :
    confEntries line = (confEntry line).toList := by
  rw [confEntries, lines_of_newline_not_mem h]
  cases hEntry : confEntry line with
  | none => simp [hEntry]
  | some entry => simp [hEntry]

/-- A value with line feeds adds no entry unless it has an equals sign. -/
def IsSafeValue (value : Text) : Prop := '\n' ∉ value ∨ '=' ∉ value

theorem confEntries_append {key value : Text} (hKey : ∀ c ∈ key, c.isAlpha = true)
    (hNe : key ≠ []) (hSafe : IsSafeValue value) :
    confEntries (key ++ '=' :: value) = ((readValue value).map fun v => (key, v)).toList := by
  have hKeyLine : '\n' ∉ key := fun hMem => absurd (hKey _ hMem) (by decide)
  have hLine : ∀ {text : Text}, '\n' ∉ text → '\n' ∉ key ++ '=' :: text := by
    intro text hText hMem
    rcases List.mem_append.mp hMem with hMem | hMem
    · exact hKeyLine hMem
    · rcases List.mem_cons.mp hMem with hMem | hMem
      · exact absurd hMem (by decide)
      · exact hText hMem
  by_cases hBreak : '\n' ∈ value
  · have hEquals : '=' ∉ value := hSafe.resolve_left (not_not_intro hBreak)
    obtain ⟨first, rest, rfl, hFirst⟩ := List.eq_append_cons_of_mem hBreak
    have hRest : confEntries rest = [] :=
      confEntries_eq_nil fun hMem => hEquals (by simp [hMem])
    have hTake : (first ++ '\n' :: rest).takeWhile (· != '\n') = first := by
      rw [List.takeWhile_append_of_pos fun c hc => bne_iff_ne.mpr (ne_of_mem_of_not_mem hc hFirst)]
      simp
    rw [← List.cons_append, ← List.append_assoc, confEntries_append_newline, hRest,
      List.append_nil, confEntries_line (hLine hFirst), confEntry_append hKey hNe, readValue, hTake]
  · rw [confEntries_line (hLine hBreak), confEntry_append hKey hNe, readValue,
      takeWhile_newline_of_not_mem hBreak]

theorem confGet_append (key : Text) (a b : List (Text × Text)) :
    confGet key (a ++ b) = (confGet key b).or (confGet key a) := by
  rw [confGet, List.reverse_append, List.find?_append]
  cases hFind : b.reverse.find? fun e => e.1 = key with
  | none => simp [confGet, hFind]
  | some e => simp [confGet, hFind]

theorem confGet_eq_none {key : Text} {entries : List (Text × Text)}
    (h : ∀ e ∈ entries, e.1 ≠ key) : confGet key entries = none := by
  have hFind : (entries.reverse.find? fun e => e.1 = key) = none := by
    refine List.find?_eq_none.mpr fun e he => ?_
    simpa using h e (List.mem_reverse.mp he)
  rw [confGet, hFind]
  rfl

theorem confGet_eq_getLast? (key : Text) (entries : List (Text × Text)) :
    confGet key entries = ((entries.filter fun e => e.1 = key).map Prod.snd).getLast? := by
  rw [confGet, List.getLast?_map, ← List.head?_reverse, ← List.filter_reverse, List.head?_filter]

theorem filterMap_cons_toList {α β : Type} (f : α → Option β) (a : α) (l : List α) :
    (a :: l).filterMap f = (f a).toList ++ l.filterMap f := by
  cases h : f a with
  | none => simp [List.filterMap_cons_none h]
  | some b => simp [List.filterMap_cons_some h]

def fieldEntry (field : Text × Option Text) : Option (Text × Text) :=
  (field.2.bind readValue).map fun value => (field.1, value)

theorem fst_of_fieldEntry {field : Text × Option Text} {e : Text × Text}
    (h : fieldEntry field = some e) : e.1 = field.1 := by
  obtain ⟨value, -, rfl⟩ := Option.map_eq_some_iff.mp h
  rfl

theorem confGet_fieldEntry (field : Text × Option Text) :
    confGet field.1 (fieldEntry field).toList = field.2.bind readValue := by
  rw [fieldEntry]
  cases field.2.bind readValue with
  | none => rfl
  | some value => simp [confGet]

theorem confGet_filterMap_fieldEntry {fields : List (Text × Option Text)}
    (hKeys : (fields.map Prod.fst).Nodup) {field : Text × Option Text} (hField : field ∈ fields) :
    confGet field.1 (fields.filterMap fieldEntry) = field.2.bind readValue := by
  induction fields with
  | nil => exact absurd hField List.not_mem_nil
  | cons first rest ih =>
    obtain ⟨hFirst, hRest⟩ := List.nodup_cons.mp hKeys
    rw [filterMap_cons_toList, confGet_append]
    rcases List.mem_cons.mp hField with rfl | hMem
    · have hNone : confGet field.1 (rest.filterMap fieldEntry) = none := by
        refine confGet_eq_none fun e he => ?_
        obtain ⟨other, hOther, hEntry⟩ := List.mem_filterMap.mp he
        rw [fst_of_fieldEntry hEntry]
        exact fun hKey => hFirst (List.mem_map.mpr ⟨other, hOther, hKey⟩)
      rw [hNone, Option.none_or, confGet_fieldEntry]
    · have hNone : confGet field.1 (fieldEntry first).toList = none := by
        refine confGet_eq_none fun e he => ?_
        rw [fst_of_fieldEntry (Option.mem_toList.mp he)]
        exact fun hKey => hFirst (List.mem_map.mpr ⟨field, hMem, hKey.symm⟩)
      rw [hNone, Option.or_none, ih hRest hMem]

theorem flatMap_confEntries_fields {fields : List (Text × Option Text)}
    (hKeys : ∀ f ∈ fields, f.1 ≠ [] ∧ ∀ c ∈ f.1, c.isAlpha = true)
    (hSafe : ∀ f ∈ fields, ∀ v ∈ f.2, IsSafeValue v) :
    (fields.filterMap confLine).flatMap confEntries = fields.filterMap fieldEntry := by
  induction fields with
  | nil => rfl
  | cons field rest ih =>
    have hRest := ih (fun f hf => hKeys f (List.mem_cons_of_mem _ hf))
      fun f hf => hSafe f (List.mem_cons_of_mem _ hf)
    rw [filterMap_cons_toList, filterMap_cons_toList, List.flatMap_append, hRest]
    obtain ⟨key, value⟩ := field
    cases value with
    | none => rfl
    | some value =>
      obtain ⟨hNe, hAlpha⟩ := hKeys _ List.mem_cons_self
      have hLine := confEntries_append hAlpha hNe (hSafe _ List.mem_cons_self value rfl)
      show [key ++ '=' :: value].flatMap confEntries ++ _ = _
      rw [List.flatMap_singleton, hLine]
      rfl

def confKeys : List Text :=
  ["root", "mailhub", "FromLineOverride", "AuthUser", "AuthPass", "AuthMethod", "UseTLS",
    "UseSTARTTLS"].map String.toList

theorem confFields_fst (config : SmtpConfig) : (confFields config).map Prod.fst = confKeys := rfl

theorem confFields_keys (config : SmtpConfig) :
    ∀ f ∈ confFields config, f.1 ≠ [] ∧ ∀ c ∈ f.1, c.isAlpha = true := by
  have hAll : (confKeys.all fun key => !key.isEmpty && key.all Char.isAlpha) = true := by decide
  intro f hf
  have hKey : f.1 ∈ confKeys := confFields_fst config ▸ List.mem_map_of_mem hf
  simpa using List.all_eq_true.mp hAll f.1 hKey

theorem confFields_nodup (config : SmtpConfig) : ((confFields config).map Prod.fst).Nodup := by
  rw [confFields_fst]
  decide

theorem confGet_serializeSsmtpConf {config : SmtpConfig}
    (hSafe : ∀ f ∈ confFields config, ∀ v ∈ f.2, IsSafeValue v) {key : Text} {value : Option Text}
    (hField : (key, value) ∈ confFields config) :
    confGet key (confEntries (serializeSsmtpConf config)) = value.bind readValue := by
  have hLines : (confFields config).filterMap confLine ≠ [] := by
    rw [confFields, filterMap_cons_toList]
    exact List.cons_ne_nil _ _
  rw [serializeSsmtpConf, confEntries_file hLines,
    flatMap_confEntries_fields (confFields_keys config) hSafe]
  exact confGet_filterMap_fieldEntry (confFields_nodup config) hField

theorem confValue_of_spaces {after : Text} (h : ∀ c ∈ after, isSpace c = true) :
    (confValue after).getD [] = [] := by
  have hDrop : after.dropWhile isSpace = [] := List.dropWhile_eq_nil_iff.mpr h
  dsimp only [confValue]
  rw [hDrop]
  show (if _ then some [] else none : Option Text).getD [] = []
  split_ifs
  · rfl
  · rfl

theorem confValue_of_text {spaces : Text} (hSpaces : ∀ c ∈ spaces, isSpace c = true) {c : Char}
    {rest : Text} (hc : isSpace c = false) :
    confValue (spaces ++ c :: rest) =
      some (trim ((c :: rest).takeWhile fun d => !isLineTerminator d)) := by
  have hDrop : (spaces ++ c :: rest).dropWhile isSpace = c :: rest := by
    rw [List.dropWhile_append_of_pos hSpaces, List.dropWhile_cons_of_neg (by simp [hc])]
  dsimp only [confValue]
  rw [hDrop]

theorem readValue_of_trimmed (hNe : value ≠ []) (hTrim : trim value = value)
    (hLine : ∀ c ∈ value, isLineTerminator c = false) : readValue value = some value := by
  have hBreak : '\n' ∉ value := fun hMem => absurd (hLine _ hMem) (by decide)
  obtain ⟨c, rest, rfl⟩ := List.exists_cons_of_ne_nil hNe
  have hc : isSpace c = false := head?_trim (c :: rest) c (by rw [hTrim]; rfl)
  have hTake : (c :: rest).takeWhile (fun d => !isLineTerminator d) = c :: rest :=
    List.takeWhile_eq_self_iff.mpr fun d hd => by simp [hLine d hd]
  have hText := @confValue_of_text [] (by simp) c rest hc
  rw [readValue, takeWhile_newline_of_not_mem hBreak, ← List.nil_append (c :: rest), hText, hTake,
    hTrim, List.nil_append]

theorem confValue_of_isWord {spaces w tail : Text} (hSpaces : ∀ c ∈ spaces, isSpace c = true)
    (hw : IsWord w) (hTail : ∀ c ∈ tail, isSpace c = true) :
    confValue (spaces ++ (w ++ tail)) = some w := by
  have hTake : (w ++ tail).takeWhile (fun d => !isLineTerminator d) =
      w ++ tail.takeWhile fun d => !isLineTerminator d :=
    List.takeWhile_append_of_pos fun d hd => by simp [isLineTerminator_eq_false (hw.2 d hd)]
  have hTrim : trim (w ++ tail.takeWhile fun d => !isLineTerminator d) = w := by
    rw [trim_append_spaces fun d hd => hTail d ((List.takeWhile_subset _) hd), hw.trim_eq]
  obtain ⟨c, rest, rfl⟩ := List.exists_cons_of_ne_nil hw.ne_nil
  rw [List.cons_append, confValue_of_text hSpaces (hw.2 c List.mem_cons_self), ← List.cons_append,
    hTake, hTrim]

/-- What the parser finds of a value that was checked trimmed: nothing, when the value starts on a
line below its key. -/
def shownValue (value : Text) : Text := if '\n' ∈ value.takeWhile isSpace then [] else trim value

theorem readValue_getD (h : IsWord (trim value)) :
    (readValue value).getD [] = shownValue value := by
  obtain ⟨front, hFront, hStart⟩ := exists_spaces_trimStart value
  obtain ⟨back, hBack, hEnd⟩ := exists_spaces_trimEnd (trimStart value)
  obtain ⟨c, rest, hWord⟩ := List.exists_cons_of_ne_nil h.ne_nil
  have hc : isSpace c = false := h.2 c (by simp [hWord])
  have hValue : value = front ++ (trim value ++ back) := by
    rw [trim, hEnd, hStart]
  have hTake : value.takeWhile isSpace = front := by
    rw [hValue, List.takeWhile_append_of_pos hFront, hWord, List.cons_append,
      List.takeWhile_cons_of_neg (by simp [hc]), List.append_nil]
  rw [shownValue, hTake]
  by_cases hBreak : '\n' ∈ front
  · -- the key has only white space on its line
    rw [if_pos hBreak]
    refine confValue_of_spaces fun d hd => ?_
    obtain ⟨a, b, rfl, ha⟩ := List.eq_append_cons_of_mem hBreak
    have hCut : value.takeWhile (· != '\n') = a := by
      rw [hValue, List.append_assoc,
        List.takeWhile_append_of_pos fun e he => bne_iff_ne.mpr (ne_of_mem_of_not_mem he ha)]
      simp
    rw [hCut] at hd
    exact hFront d (List.mem_append_left _ hd)
  · have hNoBreak : ∀ d ∈ trim value, (d != '\n') = true := by
      intro d hd
      refine bne_iff_ne.mpr ?_
      rintro rfl
      exact absurd (h.2 _ hd) (by decide)
    have hCut : value.takeWhile (· != '\n') =
        front ++ (trim value ++ back.takeWhile (· != '\n')) := by
      conv_lhs => rw [hValue]
      rw [List.takeWhile_append_of_pos fun d hd => bne_iff_ne.mpr (ne_of_mem_of_not_mem hd hBreak),
        List.takeWhile_append_of_pos hNoBreak]
    rw [if_neg hBreak, readValue, hCut,
      confValue_of_isWord hFront h fun d hd => hBack d ((List.takeWhile_subset _) hd)]
    rfl

theorem shownValue_eq_self_iff (h : IsWord (trim value)) :
    shownValue value = value ↔ trim value = value := by
  constructor
  · intro hShown
    rw [shownValue] at hShown
    split_ifs at hShown with hBreak
    · rw [← hShown] at hBreak
      exact absurd hBreak List.not_mem_nil
    · exact hShown
  · intro hTrim
    have hNone : value.takeWhile isSpace = [] := by
      obtain ⟨c, rest, hCons⟩ := List.exists_cons_of_ne_nil h.ne_nil
      have hc : isSpace c = false := h.2 c (by simp [hCons])
      rw [← hTrim, hCons, List.takeWhile_cons_of_neg (by simp [hc])]
    rw [shownValue, hNone, if_neg List.not_mem_nil, hTrim]

theorem shownValue_eq_trim_iff (h : IsWord (trim value)) :
    shownValue value = trim value ↔ StartsOnItsLine value := by
  rw [shownValue, StartsOnItsLine]
  by_cases hBreak : '\n' ∈ value.takeWhile isSpace
  · rw [if_pos hBreak]
    exact iff_of_false h.ne_nil.symm (not_not_intro hBreak)
  · rw [if_neg hBreak]
    exact iff_of_true rfl hBreak

theorem plainPassword_spec {line value : Text} (hLine : ∀ c ∈ line, isLineTerminator c = false)
    (h : plainPassword line = some value) :
    trim value = value ∧ ∀ c ∈ value, isLineTerminator c = false := by
  rw [plainPassword] at h
  split_ifs at h
  obtain rfl := Option.some.inj h
  refine ⟨trim_trim _, fun c hc => hLine c ?_⟩
  exact List.mem_of_mem_drop (trim_subset _ hc)

theorem routePassword_getD (content : Text) :
    trim ((routePassword content).getD []) = (routePassword content).getD [] ∧
      ∀ c ∈ (routePassword content).getD [], isLineTerminator c = false := by
  cases hFound : routePassword content with
  | none => exact ⟨rfl, by simp⟩
  | some value =>
    obtain ⟨line, hLine, hValue⟩ := List.exists_of_findSome?_eq_some hFound
    exact plainPassword_spec (eq_false_of_mem_splitOnP hLine) hValue

theorem routePassword_eq_head? (content : Text) :
    routePassword content = (plainPasswords content).head? := List.head?_filterMap.symm

theorem storedPassword_eq_getLast? (content : Text) :
    storedPassword content = (passwordEntries content).getLast?.getD [] := by
  rw [storedPassword, confGet_eq_getLast?]
  rfl

theorem mem_unlessEmpty {v value : Text} (h : v ∈ unlessEmpty value) : v = value := by
  rw [unlessEmpty] at h
  split_ifs at h
  · cases h
  · exact (Option.some.inj h).symm

theorem readBack_unlessEmpty (hTrim : trim value = value)
    (hLine : ∀ c ∈ value, isLineTerminator c = false) :
    ((unlessEmpty value).bind readValue).getD [] = value := by
  rw [unlessEmpty]
  by_cases hNil : value = []
  · rw [if_pos hNil, hNil]
    rfl
  · rw [if_neg hNil, Option.bind_some, readValue_of_trimmed hNil hTrim hLine]
    rfl

theorem isSafeValue_confFields {config : SmtpConfig} (hEmail : '=' ∉ config.alertEmail)
    (hHub : '=' ∉ config.mailHub) (hUser : '\n' ∉ config.authUser)
    (hPass : '\n' ∉ config.authPass) (hMethod : '\n' ∉ config.authMethod) :
    ∀ f ∈ confFields config, ∀ v ∈ f.2, IsSafeValue v := by
  intro f hf v hv
  simp only [confFields, List.mem_cons, List.not_mem_nil, or_false] at hf
  rcases hf with rfl | rfl | rfl | rfl | rfl | rfl | rfl | rfl
  · obtain rfl := Option.some.inj hv
    exact Or.inr hEmail
  · obtain rfl := Option.some.inj hv
    exact Or.inr hHub
  · obtain rfl := Option.some.inj hv
    cases config.fromOverride with
    | false => exact Or.inl (by decide)
    | true => exact Or.inl (by decide)
  · obtain rfl := mem_unlessEmpty hv
    exact Or.inl hUser
  · obtain rfl := mem_unlessEmpty hv
    exact Or.inl hPass
  · obtain rfl := mem_unlessEmpty hv
    exact Or.inl hMethod
  · split_ifs at hv
    · obtain rfl := Option.some.inj hv
      exact Or.inl (by decide)
    · cases hv
  · split_ifs at hv
    · obtain rfl := Option.some.inj hv
      exact Or.inl (by decide)
    · cases hv

variable (form : SmtpForm) (old : Text)

theorem SmtpForm.isWord_alertEmail : IsWord (trim form.alertEmail) :=
  (isPlainText_of_safeSmtpEmail form.alertEmail_ok).isWord

theorem SmtpForm.isWord_mailHub : IsWord (trim form.mailHub) :=
  (isPlainText_of_safeSmtpMailHub form.mailHub_ok).isWord

theorem SmtpForm.authUser_trimmed :
    trim form.authUser = form.authUser ∧ ∀ c ∈ form.authUser, isLineTerminator c = false := by
  by_cases hNil : form.authUser = []
  · rw [hNil]
    exact ⟨rfl, by simp⟩
  · have hWord := (isPlainText_of_safeSmtpAuthUser form.authUser_ok hNil).isWord
    exact ⟨hWord.trim_eq, fun c hc => isLineTerminator_eq_false (hWord.2 c hc)⟩

theorem SmtpForm.newline_not_mem_authPass : '\n' ∉ form.authPass := by
  have h := form.authPass_ok
  dsimp only [validateSmtpAuthPass] at h
  split_ifs at h with hNil hLong hBreak
  · simp [hNil]
  · exact fun hMem => hBreak (Or.inr (Or.inl hMem))

theorem SmtpAuthMethod.trimmed (method : Option SmtpAuthMethod) :
    trim ((method.map SmtpAuthMethod.text).getD []) = (method.map SmtpAuthMethod.text).getD [] ∧
      ∀ c ∈ (method.map SmtpAuthMethod.text).getD [], isLineTerminator c = false := by
  cases method with
  | none => exact ⟨rfl, by simp⟩
  | some method =>
    have hText : trim method.text = method.text ∧
        (method.text.all fun c => !isLineTerminator c) = true := by
      cases method with
      | login => decide
      | plain => decide
      | cramMd5 => decide
    refine ⟨hText.1, fun c hc => ?_⟩
    simpa using List.all_eq_true.mp hText.2 c hc

theorem newline_not_mem_authPass_smtpConfig : '\n' ∉ (smtpConfig form old).authPass := by
  dsimp only [smtpConfig]
  split_ifs
  · exact fun hMem => absurd ((routePassword_getD old).2 _ hMem) (by decide)
  · exact form.newline_not_mem_authPass

theorem isSafeValue_smtpConfig :
    ∀ f ∈ confFields (smtpConfig form old), ∀ v ∈ f.2, IsSafeValue v :=
  isSafeValue_confFields
    (equals_not_mem_of_isPlainText (isPlainText_of_safeSmtpEmail form.alertEmail_ok))
    (equals_not_mem_of_isPlainText (isPlainText_of_safeSmtpMailHub form.mailHub_ok))
    (fun hMem => absurd (form.authUser_trimmed.2 _ hMem) (by decide))
    (newline_not_mem_authPass_smtpConfig form old)
    (fun hMem => absurd ((SmtpAuthMethod.trimmed form.authMethod).2 _ hMem) (by decide))

theorem confGet_patched {i : Nat} {key : Text} {value : Option Text}
    (hField : (confFields (smtpConfig form old))[i]? = some (key, value)) :
    confGet key (confEntries (patchedSsmtpConf form old)) = value.bind readValue :=
  confGet_serializeSsmtpConf (isSafeValue_smtpConfig form old) (List.mem_of_getElem? hField)

theorem alertEmail_patched :
    (parseSsmtpConf (patchedSsmtpConf form old)).alertEmail = shownValue form.alertEmail := by
  have hGet := confGet_patched form old (i := 0) rfl
  show (confGet "root".toList _).getD [] = _
  rw [hGet, Option.bind_some]
  exact readValue_getD form.isWord_alertEmail

theorem mailHub_patched :
    (parseSsmtpConf (patchedSsmtpConf form old)).mailHub = shownValue form.mailHub := by
  have hGet := confGet_patched form old (i := 1) rfl
  show (confGet "mailhub".toList _).getD [] = _
  rw [hGet, Option.bind_some]
  exact readValue_getD form.isWord_mailHub

theorem fromOverride_patched :
    (parseSsmtpConf (patchedSsmtpConf form old)).fromOverride = form.fromOverride := by
  have hGet := confGet_patched form old (i := 2) rfl
  show (confGet "FromLineOverride".toList _ == some yes) = _
  rw [hGet]
  show ((some (if form.fromOverride then yes else "NO".toList)).bind readValue == some yes) = _
  cases form.fromOverride with
  | false => decide
  | true => decide

theorem authUser_patched :
    (parseSsmtpConf (patchedSsmtpConf form old)).authUser = form.authUser := by
  have hGet := confGet_patched form old (i := 3) rfl
  show (confGet "AuthUser".toList _).getD [] = _
  rw [hGet]
  exact readBack_unlessEmpty form.authUser_trimmed.1 form.authUser_trimmed.2

theorem storedPassword_patched (hEmpty : form.authPass = []) :
    storedPassword (patchedSsmtpConf form old) = (routePassword old).getD [] := by
  have hGet := confGet_patched form old (i := 4) rfl
  have hPass : (smtpConfig form old).authPass = (routePassword old).getD [] := if_pos hEmpty
  rw [storedPassword, hGet, hPass]
  exact readBack_unlessEmpty (routePassword_getD old).1 (routePassword_getD old).2

theorem authMethod_patched :
    (parseSsmtpConf (patchedSsmtpConf form old)).authMethod =
      (form.authMethod.map SmtpAuthMethod.text).getD [] := by
  have hGet := confGet_patched form old (i := 5) rfl
  show (confGet "AuthMethod".toList _).getD [] = _
  rw [hGet]
  exact readBack_unlessEmpty (SmtpAuthMethod.trimmed _).1 (SmtpAuthMethod.trimmed _).2

theorem useTLS_patched : (parseSsmtpConf (patchedSsmtpConf form old)).useTLS = form.useTLS := by
  have hGet := confGet_patched form old (i := 6) rfl
  show (confGet "UseTLS".toList _ == some yes) = _
  rw [hGet]
  show ((if form.useTLS then some yes else none).bind readValue == some yes) = _
  cases form.useTLS with
  | false => decide
  | true => decide

theorem useSTARTTLS_patched :
    (parseSsmtpConf (patchedSsmtpConf form old)).useSTARTTLS = form.useSTARTTLS := by
  have hGet := confGet_patched form old (i := 7) rfl
  show (confGet "UseSTARTTLS".toList _ == some yes) = _
  rw [hGet]
  show ((if form.useSTARTTLS then some yes else none).bind readValue == some yes) = _
  cases form.useSTARTTLS with
  | false => decide
  | true => decide

theorem keeps_password_iff (hEmpty : form.authPass = []) :
    storedPassword (patchedSsmtpConf form old) = storedPassword old ↔ OnePassword old := by
  rw [storedPassword_patched form old hEmpty, routePassword_eq_head?, storedPassword_eq_getLast?]
  rfl

theorem smtpReadsBack_iff (shown : Text → Text) :
    SmtpReadsBack shown form old ↔ shownValue form.alertEmail = shown form.alertEmail ∧
      shownValue form.mailHub = shown form.mailHub ∧ (form.authPass = [] → OnePassword old) := by
  constructor
  · intro h
    refine ⟨?_, ?_, fun hEmpty => (keeps_password_iff form old hEmpty).mp (h.password hEmpty)⟩
    · rw [← alertEmail_patched form old, h.alertEmail]
    · rw [← mailHub_patched form old, h.mailHub]
  · rintro ⟨hEmail, hHub, hPass⟩
    exact
      { alertEmail := (alertEmail_patched form old).trans hEmail
        mailHub := (mailHub_patched form old).trans hHub
        authUser := authUser_patched form old
        useTLS := useTLS_patched form old
        useSTARTTLS := useSTARTTLS_patched form old
        authMethod := authMethod_patched form old
        fromOverride := fromOverride_patched form old
        password := fun hEmpty => (keeps_password_iff form old hEmpty).mpr (hPass hEmpty) }

end EsosWebui.SystemConfig
