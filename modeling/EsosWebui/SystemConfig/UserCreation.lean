import EsosWebui.Js.Strings
import EsosWebui.Posix.CommandLine

/-! The creation of an ESOS user on a SAN: the command line that `chpasswd` reads its input from,
and what a second request does with an account that a failed one has left. -/
namespace EsosWebui.SystemConfig

open Js Posix

/-- `/^[a-z][a-z0-9_-]*$/` -/
def isUsername : Text → Bool
  | c :: rest => c.isLower && rest.all fun c => c.isLower || c.isDigit || c == '_' || c == '-'
  | [] => false

/-- A request body that the schema accepts. -/
structure CreateUserBody where
  username : Text
  password : Text
  pattern : isUsername username = true
  short : username.length ≤ 20
  entered : password ≠ []

/-- `bodySchema.safeParse(body)` -/
def CreateUserBody.safeParse (username password : Text) : Option CreateUserBody :=
  if h : isUsername username = true ∧ username.length ≤ 20 ∧ password ≠ [] then
    some ⟨username, password, h.1, h.2.1, h.2.2⟩
  else none

/-- `.replace(/\\/g, '\\\\')` -/
def doubleBackslashes (password : Text) : Text :=
  password.flatMap fun c => if c = '\\' then ['\\', '\\'] else [c]

def escapedPassword (password : Text) : Text := escapeQuotes (doubleBackslashes password)

def chpasswdPart : Text := " /usr/sbin/chpasswd -m 2>&1; echo \"EXITCODE:$?\"".toList

def printfPart : Text := "printf '%s\\n' '".toList

/-- Behind the last quote. -/
def pipePart : Text := " |".toList

def chpasswdCommand (username password : Text) : Text :=
  printfPart ++ (username ++ ':' :: escapedPassword password) ++ '\'' :: (pipePart ++ chpasswdPart)

def isShellPlain (c : Char) : Bool := c.isAlphanum || "%+,-./:=@_".toList.contains c

/-- The bytes that a command line of this kind gives to `chpasswd`; a line with a NUL is not
run. -/
def chpasswdInput (line : Text) : Option Text :=
  if '\x00' ∈ line then none
  else
    (wordsToPipe isShellPlain .between line).bind fun (words, after) =>
      match words with
      | command :: format :: args =>
        if command = "printf".toList ∧ after = chpasswdPart then printf format args.length args
        else none
      | _ => none

def inputLines (input : Text) : List Text :=
  let lines := input.splitOn '\n'
  if lines.getLast? = some [] then lines.dropLast else lines

structure Accounts where
  /-- The names in `/etc/passwd`. -/
  users : Text → Bool
  /-- The members of the group `root`. -/
  members : Text → Bool
  password : Text → Option Text

/-- What becomes of one remote command. -/
inductive CommandFate where
  /-- It runs, and its exit code is read. -/
  | answered
  /-- It runs, and its answer is lost. -/
  | unheard
  /-- It fails and changes nothing. -/
  | fails
  /-- It fails after its first change. -/
  | fallsShort
  /-- It is not run. -/
  | lost

structure RequestFate where
  groupCheck : CommandFate := .answered
  passwdCheck : CommandFate := .answered
  account : CommandFate := .answered
  chpasswd : CommandFate := .answered
  confSync : CommandFate := .answered

/-- Nothing goes wrong. -/
def undisturbed : RequestFate := {}

inductive CreateUserError where
  | remote
  | taken
  | orphan
  | account
  | password

namespace CreateUserError

def statusCode : CreateUserError → Nat
  | .taken => 409
  | _ => 500

/-- With what the failed command has printed. -/
def message (username errOut : Text) : CreateUserError → Text
  | .remote => errOut
  | .taken => "L'utilisateur \"".toList ++ username ++ "\" existe déjà".toList
  | .orphan => "Échec récupération utilisateur orphelin : ".toList ++ errOut
  | .account => "Échec création utilisateur : ".toList ++ errOut
  | .password => "Utilisateur créé mais erreur mot de passe : ".toList ++ errOut

end CreateUserError

/-- A remote command: what it leaves when it falls short, what it leaves at its end, and its
exit code then. -/
structure RemoteCommand where
  halfway : Accounts → Accounts
  whole : Accounts → Accounts
  status : Accounts → Nat

/-- The accounts after a command, and its exit code unless `exec` throws. -/
def RemoteCommand.run (c : RemoteCommand) (s : Accounts) : CommandFate → Accounts × Option Nat
  | .answered => (c.whole s, some (c.status s))
  | .unheard => (c.whole s, none)
  | .fails => (s, some 1)
  | .fallsShort => (c.halfway s, some 1)
  | .lost => (s, none)

/-- `… && echo yes || echo no`: a command that fails says no. -/
def look (found : Bool) : CommandFate → Option Bool
  | .answered => some found
  | .fails | .fallsShort => some false
  | .unheard | .lost => none

def Accounts.addUser (username : Text) (s : Accounts) : Accounts :=
  { s with users := fun u => u == username || s.users u }

def Accounts.addMember (username : Text) (s : Accounts) : Accounts :=
  { s with members := fun u => u == username || s.members u }

/-- The tools of the SAN that make an account and put it into the group `root`. -/
structure AccountTools where
  adduser : Text → RemoteCommand
  addgroup : Text → RemoteCommand
  /-- Adding an account to the group succeeds, and no account is lost. -/
  addgroup_status : ∀ username s, (addgroup username).status s = 0
  addgroup_users : ∀ username s, ((addgroup username).whole s).users = s.users

/-- `adduser -G root` makes the entry of a new user, then puts it into the group. -/
def busyBox : AccountTools where
  adduser username :=
    { halfway := fun s => if s.users username then s else s.addUser username
      whole := fun s =>
        if s.users username then s else (s.addUser username).addMember username
      status := fun s => if s.users username then 1 else 0 }
  addgroup username :=
    { halfway := id
      whole := fun s => s.addMember username
      status := fun _ => 0 }
  addgroup_status _ _ := rfl
  addgroup_users _ _ := rfl

/-- One line of `chpasswd`: the name up to the first colon, and the password. -/
def setPassword (line : Text) (s : Accounts) : Option Accounts :=
  let name := line.takeWhile (· != ':')
  if ':' ∈ line ∧ s.users name = true then
    some { s with
      password := fun u =>
        if u = name then some (line.drop (name.length + 1)) else s.password u }
  else none

/-- The lines one after the other, up to the first that is refused. -/
def setPasswords : List Text → Accounts → Accounts × Nat
  | [], s => (s, 0)
  | line :: rest, s =>
    match setPassword line s with
    | some s' => setPasswords rest s'
    | none => (s, 1)

/-- `chpasswd` behind its pipe, on a command line. -/
def chpasswd (line : Text) : RemoteCommand where
  halfway s := (setPasswords (((chpasswdInput line).map inputLines).getD []) s).1
  whole s := (setPasswords (((chpasswdInput line).map inputLines).getD []) s).1
  status s :=
    match chpasswdInput line with
    | some input => (setPasswords (inputLines input) s).2
    | none => 2

def checkExit (result : Accounts × Option Nat) (error : CreateUserError) :
    Accounts × Except CreateUserError Unit :=
  match result.2 with
  | some 0 => (result.1, .ok ())
  | some _ => (result.1, .error error)
  | none => (result.1, .error .remote)

/-- The account is there and in its group, or the request ends. -/
def ensureAccount (tools : AccountTools) (username : Text) (isOrphaned : Bool)
    (fate : CommandFate) (s : Accounts) : Accounts × Except CreateUserError Unit :=
  if isOrphaned then checkExit ((tools.addgroup username).run s fate) .orphan
  else checkExit ((tools.adduser username).run s fate) .account

def finishUser (body : CreateUserBody) (fate : RequestFate) (s : Accounts) :
    Accounts × Except CreateUserError Unit :=
  let line := chpasswdCommand body.username body.password
  let set := checkExit ((chpasswd line).run s fate.chpasswd) .password
  match set.2 with
  | .error e => (set.1, .error e)
  | .ok () => (set.1, if (look true fate.confSync).isNone then .error .remote else .ok ())

def createUser (tools : AccountTools) (body : CreateUserBody) (fate : RequestFate)
    (s : Accounts) : Accounts × Except CreateUserError Unit :=
  match look (s.members body.username) fate.groupCheck with
  | none => (s, .error .remote)
  | some true => (s, .error .taken)
  | some false =>
    match look (s.users body.username) fate.passwdCheck with
    | none => (s, .error .remote)
    | some isOrphaned =>
      let ensured := ensureAccount tools body.username isOrphaned fate.account s
      match ensured.2 with
      | .error e => (ensured.1, .error e)
      | .ok () => finishUser body fate ensured.1

section

variable (tools : AccountTools) (body : CreateUserBody) (fate : RequestFate) (s : Accounts)

/-- What a failed request has left is an account that it has made. -/
def FailsAfterCreating : Prop :=
  (∃ e, (createUser tools body fate s).2 = .error e) ∧ s.users body.username = false ∧
    (createUser tools body fate s).1.users body.username = true

/-- `chpasswd` reads the password as it was entered, and a request that has failed can be made
again. -/
structure PasswordSetAsEntered : Prop where
  bytes : chpasswdInput (chpasswdCommand body.username body.password) =
    some (body.username ++ ':' :: body.password ++ ['\n'])
  oneLine : (chpasswdInput (chpasswdCommand body.username body.password)).map inputLines =
    some [body.username ++ ':' :: body.password]
  repeated : FailsAfterCreating tools body fate s →
    (createUser tools body undisturbed (createUser tools body fate s).1).1.password body.username =
      some body.password

/-- No character of the password is changed on the way or ends its line. -/
structure PlainPassword (password : Text) : Prop where
  noBackslash : '\\' ∉ password
  noNewline : '\n' ∉ password
  noNul : '\x00' ∉ password

/-- An account that a failed request has made is not in the group, unless its password is set. -/
def LeftOrphaned : Prop :=
  FailsAfterCreating tools body fate s →
    (createUser tools body fate s).1.members body.username = false ∨
      (createUser tools body fate s).1.password body.username = some body.password

end

theorem mem_username {username : Text} (h : isUsername username) {c : Char}
    (hc : c ∈ username) : c.isLower = true ∨ c.isDigit = true ∨ c = '_' ∨ c = '-' := by
  cases username with
  | nil => cases h
  | cons first rest =>
    simp only [isUsername, Bool.and_eq_true, List.all_eq_true, Bool.or_eq_true, beq_iff_eq] at h
    rcases List.mem_cons.mp hc with rfl | hRest
    · exact Or.inl h.1
    · rcases h.2 c hRest with ((hLower | hDigit) | hUnderscore) | hHyphen
      · exact Or.inl hLower
      · exact Or.inr (Or.inl hDigit)
      · exact Or.inr (Or.inr (Or.inl hUnderscore))
      · exact Or.inr (Or.inr (Or.inr hHyphen))

theorem not_mem_username {username : Text} (h : isUsername username) {c : Char}
    (hc : (c.isLower || c.isDigit || c == '_' || c == '-') = false) : c ∉ username := by
  intro hMem
  rcases mem_username h hMem with hLower | hDigit | rfl | rfl
  · simp [hLower] at hc
  · simp [hDigit] at hc
  · simp at hc
  · simp at hc

theorem escapeQuotes_of_not_mem {text : Text} (h : '\'' ∉ text) : escapeQuotes text = text := by
  induction text with
  | nil => rfl
  | cons c text ih =>
    rw [List.mem_cons, not_or] at h
    have hCons : escapeQuotes (c :: text) =
        (if c = '\'' then ['\'', '\\', '\'', '\''] else [c]) ++ escapeQuotes text := rfl
    rw [hCons, ih h.2, if_neg (Ne.symm h.1)]
    rfl

theorem escapeQuotes_append (s t : Text) :
    escapeQuotes (s ++ t) = escapeQuotes s ++ escapeQuotes t := List.flatMap_append

theorem mem_doubleBackslashes {c : Char} {text : Text} :
    c ∈ doubleBackslashes text ↔ c ∈ text := by
  simp only [doubleBackslashes, List.mem_flatMap]
  constructor
  · rintro ⟨d, hd, hc⟩
    split at hc
    · rename_i hSlash
      have hc : c = '\\' := by simpa using hc
      rwa [hc, ← hSlash]
    · rwa [List.mem_singleton.mp hc]
  · intro hc
    refine ⟨c, hc, ?_⟩
    split
    · rename_i hSlash
      simp [hSlash]
    · exact List.mem_singleton_self c

theorem length_doubleBackslashes (text : Text) :
    (doubleBackslashes text).length = text.length + text.count '\\' := by
  induction text with
  | nil => rfl
  | cons c text ih =>
    have hCons : doubleBackslashes (c :: text) =
        (if c = '\\' then ['\\', '\\'] else [c]) ++ doubleBackslashes text := rfl
    rw [hCons, List.length_append, ih, List.length_cons, List.count_cons]
    by_cases hc : c = '\\'
    · simp [hc]
      omega
    · simp [hc]
      omega

theorem doubleBackslashes_eq_self_iff {text : Text} :
    doubleBackslashes text = text ↔ '\\' ∉ text := by
  constructor
  · intro hSame
    have hLength := length_doubleBackslashes text
    rw [hSame] at hLength
    exact List.count_eq_zero.mp (by omega)
  · intro hNot
    induction text with
    | nil => rfl
    | cons c text ih =>
      rw [List.mem_cons, not_or] at hNot
      have hCons : doubleBackslashes (c :: text) =
          (if c = '\\' then ['\\', '\\'] else [c]) ++ doubleBackslashes text := rfl
      rw [hCons, ih hNot.2, if_neg (Ne.symm hNot.1)]
      rfl

theorem mem_escapeQuotes {c : Char} {text : Text} (hQuote : c ≠ '\'') (hSlash : c ≠ '\\') :
    c ∈ escapeQuotes text ↔ c ∈ text := by
  simp only [escapeQuotes, List.mem_flatMap]
  constructor
  · rintro ⟨d, hd, hc⟩
    split at hc
    · simp [hQuote, hSlash] at hc
    · rwa [List.mem_singleton.mp hc]
  · intro hc
    exact ⟨c, hc, by simp [hQuote]⟩

theorem wordsToPipe_printfPart (rest : Text) :
    wordsToPipe isShellPlain .between (printfPart ++ rest) =
      (wordsToPipe isShellPlain (.quoted []) rest).map fun r =>
        ("printf".toList :: "%s\\n".toList :: r.1, r.2) := by
  have hPart : printfPart =
      ['p', 'r', 'i', 'n', 't', 'f', ' ', '\'', '%', 's', '\\', 'n', '\'', ' ', '\''] := by decide
  rw [hPart]
  simp only [List.cons_append, List.nil_append]
  simp [wordsToPipe, isShellPlain]
  cases wordsToPipe (fun c => isShellPlain c) (.quoted []) rest <;> simp

theorem wordsToPipe_pipePart (read rest : Text) :
    wordsToPipe isShellPlain (.word read) (pipePart ++ rest) = some ([read], rest) := by
  simp [pipePart, wordsToPipe]

theorem chpasswdCommand_eq {username password : Text} (h : isUsername username) :
    chpasswdCommand username password =
      printfPart ++ (escapeQuotes (username ++ ':' :: doubleBackslashes password) ++
        '\'' :: (pipePart ++ chpasswdPart)) := by
  have hColon : escapeQuotes (':' :: doubleBackslashes password) =
      ':' :: escapeQuotes (doubleBackslashes password) := rfl
  rw [chpasswdCommand, escapeQuotes_append, hColon,
    escapeQuotes_of_not_mem (not_mem_username h (by decide)), escapedPassword]
  simp

theorem nul_mem_command {username password : Text} (h : isUsername username) :
    '\x00' ∈ chpasswdCommand username password ↔ '\x00' ∈ password := by
  have hUser : '\x00' ∉ username := not_mem_username h (by decide)
  have hPrintf : '\x00' ∉ printfPart := by decide
  have hRest : '\x00' ∉ '\'' :: (pipePart ++ chpasswdPart) := by decide
  rw [chpasswdCommand_eq h, List.mem_append, List.mem_append,
    mem_escapeQuotes (by decide) (by decide), List.mem_append, List.mem_cons,
    mem_doubleBackslashes]
  simp [hUser, hPrintf, hRest]

theorem printf_line (text : Text) :
    printf "%s\\n".toList 1 [text] = some (text ++ ['\n']) := by
  have hFormat : "%s\\n".toList = ['%', 's', '\\', 'n'] := by decide
  rw [hFormat]
  simp [printf, printfOnce]

theorem chpasswdInput_command {username password : Text} (h : isUsername username) :
    chpasswdInput (chpasswdCommand username password) =
      if '\x00' ∈ password then none
      else some (username ++ ':' :: doubleBackslashes password ++ ['\n']) := by
  rw [chpasswdInput]
  by_cases hNul : '\x00' ∈ password
  · rw [if_pos ((nul_mem_command h).mpr hNul), if_pos hNul]
  · rw [if_neg (mt (nul_mem_command h).mp hNul), if_neg hNul, chpasswdCommand_eq h,
      wordsToPipe_printfPart, wordsToPipe_quoted_append, List.nil_append, wordsToPipe_pipePart]
    simp only [Option.map_some, Option.bind_some, List.length_singleton, printf_line, and_self,
      if_true]

theorem inputLines_line {line : Text} (h : '\n' ∉ line) : inputLines (line ++ ['\n']) = [line] := by
  have hJoin : line ++ ['\n'] = ['\n'].intercalate [line, []] := by simp
  have hSplit : (line ++ ['\n']).splitOn '\n' = [line, []] := by
    rw [hJoin]
    refine List.splitOn_intercalate '\n' (fun part hPart => ?_) (List.cons_ne_nil _ _)
    rcases List.mem_pair.mp hPart with rfl | rfl
    · exact h
    · exact List.not_mem_nil
  rw [inputLines, hSplit]
  rfl

theorem not_mem_inputLines {input line : Text} (h : line ∈ inputLines input) : '\n' ∉ line := by
  unfold inputLines at h
  dsimp only at h
  split at h
  · exact not_mem_of_mem_splitOn (List.mem_of_mem_dropLast h)
  · exact not_mem_of_mem_splitOn h

section

variable {tools : AccountTools} {body : CreateUserBody} {fate : RequestFate} {s : Accounts}

theorem newline_not_mem_line (h : PlainPassword body.password) :
    '\n' ∉ body.username ++ ':' :: body.password := by
  have hUser : '\n' ∉ body.username := not_mem_username body.pattern (by decide)
  simp [hUser, h.noNewline]

theorem chpasswdInput_of_plain (h : PlainPassword body.password) :
    chpasswdInput (chpasswdCommand body.username body.password) =
      some (body.username ++ ':' :: body.password ++ ['\n']) := by
  rw [chpasswdInput_command body.pattern, if_neg h.noNul,
    doubleBackslashes_eq_self_iff.mpr h.noBackslash]

theorem setPassword_line (hUser : s.users body.username) :
    setPassword (body.username ++ ':' :: body.password) s =
      some { s with
        password := fun u =>
          if u = body.username then some body.password else s.password u } := by
  have hColon : ':' ∉ body.username := not_mem_username body.pattern (by decide)
  have hName : (body.username ++ ':' :: body.password).takeWhile (· != ':') = body.username := by
    rw [List.takeWhile_append_of_pos fun c hc => ?_]
    · simp
    · simp only [bne_iff_ne, ne_eq]
      rintro rfl
      exact hColon hc
  have hDrop : (body.username ++ ':' :: body.password).drop (body.username.length + 1) =
      body.password := by simp
  rw [setPassword, hName, hDrop]
  exact if_pos ⟨by simp, hUser⟩

theorem password_finishUser (h : PlainPassword body.password)
    (hUser : s.users body.username) :
    (finishUser body undisturbed s).1.password body.username = some body.password := by
  have hLines : inputLines (body.username ++ ':' :: body.password ++ ['\n']) =
      [body.username ++ ':' :: body.password] := inputLines_line (newline_not_mem_line h)
  have hSet : setPasswords [body.username ++ ':' :: body.password] s =
      ({ s with
          password := fun u =>
            if u = body.username then some body.password else s.password u }, 0) := by
    rw [setPasswords, setPassword_line hUser]
    rfl
  have hRun : (chpasswd (chpasswdCommand body.username body.password)).run s .answered =
      ({ s with
          password := fun u =>
            if u = body.username then some body.password else s.password u }, some 0) := by
    simp only [RemoteCommand.run, chpasswd, chpasswdInput_of_plain h, Option.map_some,
      Option.getD_some, hLines, hSet]
  simp [finishUser, undisturbed, hRun, checkExit, look]

/-- A request for a member of the group is refused. -/
theorem createUser_of_member (hMember : s.members body.username) :
    createUser tools body undisturbed s = (s, .error .taken) := by
  simp [createUser, undisturbed, look, hMember]

theorem createUser_of_orphan (hMember : s.members body.username = false)
    (hUser : s.users body.username) :
    createUser tools body undisturbed s =
      finishUser body undisturbed ((tools.addgroup body.username).whole s) := by
  simp [createUser, undisturbed, look, hMember, hUser, ensureAccount, RemoteCommand.run,
    tools.addgroup_status, checkExit]

end

theorem password_set_as_entered_iff (tools : AccountTools) (body : CreateUserBody)
    (fate : RequestFate) (s : Accounts) :
    PasswordSetAsEntered tools body fate s ↔
      PlainPassword body.password ∧ LeftOrphaned tools body fate s := by
  constructor
  · rintro ⟨hBytes, hLine, hRepeated⟩
    rw [chpasswdInput_command body.pattern] at hBytes
    have hNul : '\x00' ∉ body.password := by
      intro hNul
      rw [if_pos hNul] at hBytes
      cases hBytes
    rw [if_neg hNul, Option.some.injEq, List.append_left_inj, List.append_right_inj,
      List.cons.injEq] at hBytes
    have hBackslash := doubleBackslashes_eq_self_iff.mp hBytes.2
    have hNewline : '\n' ∉ body.password := by
      intro hMem
      rw [Option.map_eq_some_iff] at hLine
      obtain ⟨input, -, hInput⟩ := hLine
      have hNot := not_mem_inputLines (hInput ▸ List.mem_singleton_self _)
      exact hNot (List.mem_append_right _ (List.mem_cons_of_mem _ hMem))
    refine ⟨⟨hBackslash, hNewline, hNul⟩, fun hFails => ?_⟩
    cases hMember : (createUser tools body fate s).1.members body.username with
    | false => exact Or.inl rfl
    | true =>
      have hPassword := hRepeated hFails
      rw [createUser_of_member hMember] at hPassword
      exact Or.inr hPassword
  · rintro ⟨hPlain, hOrphaned⟩
    refine ⟨chpasswdInput_of_plain hPlain, ?_, fun hFails => ?_⟩
    · rw [chpasswdInput_of_plain hPlain, Option.map_some,
        inputLines_line (newline_not_mem_line hPlain)]
    · cases hMember : (createUser tools body fate s).1.members body.username with
      | true =>
        rw [createUser_of_member hMember]
        rcases hOrphaned hFails with hNot | hPassword
        · rw [hMember] at hNot
          cases hNot
        · exact hPassword
      | false =>
        rw [createUser_of_orphan hMember hFails.2.2]
        exact password_finishUser hPlain
          ((congrFun (tools.addgroup_users _ _) _).trans hFails.2.2)

/-- Where only `chpasswd` fails, the new account is in the group, and its password stays unset. -/
theorem not_leftOrphaned_of_chpasswd_fails {body : CreateUserBody} {s : Accounts}
    (hUser : s.users body.username = false) (hMember : s.members body.username = false)
    (hPassword : s.password body.username ≠ some body.password) :
    ¬ LeftOrphaned busyBox body { chpasswd := .fails } s := by
  have hRun : createUser busyBox body { chpasswd := .fails } s =
      ((s.addUser body.username).addMember body.username, .error .password) := by
    simp [createUser, look, hUser, hMember, ensureAccount, busyBox, RemoteCommand.run, checkExit,
      finishUser]
  intro hLeft
  have hFails : FailsAfterCreating busyBox body { chpasswd := .fails } s :=
    ⟨⟨.password, by rw [hRun]⟩, hUser, by
      simp [hRun, Accounts.addUser, Accounts.addMember]⟩
  have hEither := hLeft hFails
  rw [hRun] at hEither
  rcases hEither with hNot | hSet
  · simp [Accounts.addMember] at hNot
  · exact hPassword hSet

def backslashBody : CreateUserBody := ⟨"op".toList, "a\\b".toList, by decide, by decide, by decide⟩

theorem backslashBody_password_changed :
    chpasswdInput (chpasswdCommand backslashBody.username backslashBody.password) =
        some "op:a\\\\b\n".toList ∧
      ∀ tools fate s, ¬ PasswordSetAsEntered tools backslashBody fate s := by
  have hInput : chpasswdInput (chpasswdCommand backslashBody.username backslashBody.password) =
      some "op:a\\\\b\n".toList := by
    rw [chpasswdInput_command backslashBody.pattern]
    decide
  refine ⟨hInput, fun tools fate s hLaw => ?_⟩
  have hBytes := hLaw.bytes
  rw [hInput] at hBytes
  revert hBytes
  decide

end EsosWebui.SystemConfig
