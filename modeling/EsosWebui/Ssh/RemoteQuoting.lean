import EsosWebui.Lvm.SafeNames
import EsosWebui.Ssh.RemoteFileWriter

/-! What a shell reads where a text is quoted for it: alone, in a word, in the script that replaces
a remote file and in the commands of the volume tools. No text holds NUL. -/
namespace EsosWebui.Ssh

open Js Posix
open Fs (shellSingleQuoteForRemote)
open Lvm (shellQuote shellCommand isPlainShellChar toList_shellQuote)

theorem spells_shellSingleQuote (s : Text) :
    Spells (shellSingleQuoteForRemote s) (s.map .literal) := by
  rw [shellSingleQuoteForRemote, List.cons_append]
  exact spells_quoted s

/-- The path is one word of a line, and the other words are the same for every path. -/
def NamesPath (line : Text → Text) : Prop :=
  ∃ front back, ∀ path, shellWords (line path) = some (front ++ path.map .literal :: back)

theorem namesPath_of_read {front back : Text} {rest : List (List Mark)}
    (hPlain : (Reader.read {} front).quoting = .plain)
    (hBetween : (Reader.read {} front).current = none)
    (hBack : ∀ words word, (Reader.read { words, current := some word } back).quoting = .plain ∧
      (Reader.read { words, current := some word } back).finish = words ++ word :: rest) :
    NamesPath fun path => front ++ shellSingleQuoteForRemote path ++ back := by
  refine ⟨(Reader.read {} front).words, rest, fun path => ?_⟩
  have hPath : Reader.read {} (front ++ shellSingleQuoteForRemote path) =
      { words := (Reader.read {} front).words, current := some (path.map .literal) } := by
    rw [Reader.read_append, spells_shellSingleQuote path _ hPlain, Reader.add, hBetween]
    rfl
  obtain ⟨hEnd, hFinish⟩ := hBack (Reader.read {} front).words (path.map .literal)
  rw [shellWords, Reader.read_append, hPath, if_pos (.inl hEnd), hFinish]

theorem namesPath_assignLine (fault : CommandFault) :
    NamesPath fun path => (assignLine path fault).text :=
  @namesPath_of_read _ _ [[.active '$', .active '$'], [.active ')']] (by decide +kernel)
    (by decide +kernel) fun words word => by
      simp [Reader.read, Reader.step, Reader.add, Reader.finish]

theorem namesPath_moveLine (fault : CommandFault) :
    NamesPath fun path => (moveLine path fault).text := by
  have hEnd (words : List (List Mark)) (word : List Mark) :
      (Reader.read { words, current := some word } []).finish = words ++ [word] := rfl
  have hNames := @namesPath_of_read "mv \"$tmp\" ".toList [] [] (by decide +kernel)
    (by decide +kernel) fun words word => ⟨rfl, hEnd words word⟩
  simp only [List.append_nil] at hNames
  exact hNames

theorem isOrdinary_of_plain {c : Char} (hc : isPlainShellChar c) : IsOrdinary c := by
  intro hSpecial
  have hNone : " \t;&|<>()\n'\"\\$`*?[]{}~#=%!".toList.all (!isPlainShellChar ·) = true := by
    decide +kernel
  have hNot := List.all_eq_true.mp hNone c hSpecial
  rw [hc] at hNot
  cases hNot

theorem spells_shellQuote (arg : String) :
    Spells (shellQuote arg).toList (arg.toList.map .literal) := by
  rw [toList_shellQuote, quoteWord]
  split_ifs with h
  · exact spells_ordinary (fun c hc => isOrdinary_of_plain (List.all_eq_true.mp h.2 c hc)) h.1
  · exact spells_quoted arg.toList

theorem shellWords_shellCommand (args : List String) :
    shellWords (shellCommand args).toList = some (args.map fun arg => arg.toList.map .literal) := by
  rw [shellCommand, toList_join, List.map_map]
  apply shellWords_intercalate
  rw [List.forall₂_map_left_iff, List.forall₂_map_right_iff, List.forall₂_same]
  exact fun arg _ => spells_shellQuote arg

/-- A quoted text is just the characters of the text, alone, as a part of a word and wherever else
it stands outside of quotes; the first and the last line of the script name its path, the others do
not depend on it, and a tool is given its arguments. -/
theorem remote_quoting_exact :
    (∀ s, shellWords (shellSingleQuoteForRemote s) = some [s.map .literal]) ∧
      (∀ s front back marks marks', Spells front marks → Spells back marks' →
        shellWords (front ++ shellSingleQuoteForRemote s ++ back) =
          some [marks ++ s.map .literal ++ marks']) ∧
      (∀ s, Spells (shellSingleQuoteForRemote s) (s.map .literal)) ∧
      (∀ delimiter content requireNonEmpty faults, ∃ first middle last,
        NamesPath first ∧ NamesPath last ∧ ∀ path,
          ∀ lines ∈ (atomicWriteLines path delimiter content requireNonEmpty faults).toOption,
            lines.map (·.text) = first path :: middle ++ [last path]) ∧
      ∀ args : List String,
        shellWords (shellCommand args).toList =
          some (args.map fun arg => arg.toList.map .literal) := by
  have hWord {text : Text} {marks : List Mark} (h : Spells text marks) :
      shellWords text = some [marks] := by
    simpa using shellWords_intercalate (List.Forall₂.cons h .nil)
  refine ⟨fun s => hWord (spells_shellSingleQuote s), fun s front back marks marks' h h' =>
    hWord ((h.append (spells_shellSingleQuote s)).append h'), spells_shellSingleQuote,
    fun delimiter content requireNonEmpty faults => ?_, shellWords_shellCommand⟩
  refine ⟨_, (decodeLine delimiter (contentToBase64 content) faults.decode).text ::
    if requireNonEmpty then [(testLine faults.test).text] else [], _,
    namesPath_assignLine faults.assign, namesPath_moveLine faults.move, fun path lines hLines => ?_⟩
  unfold atomicWriteLines at hLines
  dsimp only at hLines
  split at hLines
  · cases hLines
  · cases hLines
    cases requireNonEmpty <;> rfl

end EsosWebui.Ssh
