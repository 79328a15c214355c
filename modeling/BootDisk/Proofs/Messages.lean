import BootDisk.Cluster
import Mathlib.Data.List.Basic

/-!
# What a message tells

The text of an error is a lead that names the condition, and details in which numbers stand between
fixed words. No lead starts another one (`Condition.eq_of_lead`), and a number ends where the words
go on (`numeral_append_inj`). So the text tells which error it is of, whatever the numbers are and
whatever path it ends with (`messages_identify`). The texts that the log shows of links and of load
errors tell them apart as well (`Link.text_inj`, `LoadError.text_inj`).
-/

namespace BootDisk

/-! Texts by their starts. -/

section Starts

variable {front front' : String}

/-- Of two fronts of one text, one starts the other. -/
theorem starts_of_append_eq {back back' : String} (same : front ++ back = front' ++ back') :
    front.toList <+: front'.toList ∨ front'.toList <+: front.toList := by
  have chars := congrArg String.toList same
  rw [String.toList_append, String.toList_append] at chars
  have starts : front'.toList <+: front.toList ++ back.toList := chars ▸ List.prefix_append ..
  exact List.prefix_or_prefix_of_prefix (List.prefix_append ..) starts

/-- Texts that start differently are different. -/
theorem append_ne_append (apart : ¬ front.toList <+: front'.toList)
    (apart' : ¬ front'.toList <+: front.toList) (back back' : String) :
    front ++ back ≠ front' ++ back' :=
  fun same => (starts_of_append_eq same).elim apart apart'

end Starts

/-! Numerals. -/

section Numerals

/-- Whether a character stands for a digit, in a base up to sixteen. -/
def isNumeral (c : Char) : Bool :=
  c.isDigit || 'a' ≤ c && c ≤ 'f'

/-- A number in a base. -/
def numeral (base n : Nat) : String :=
  String.ofList (Nat.toDigits base n)

/-- Whether a text goes on with something else behind a numeral. -/
def stops (text : String) : Bool :=
  text.toList.head?.any (!isNumeral ·)

theorem isNumeral_digitChar : ∀ n < 16, isNumeral n.digitChar = true := by decide

theorem digitChar_inj : ∀ m < 16, ∀ n < 16, m.digitChar = n.digitChar → m = n := by decide

variable {base m n : Nat} {words rest rest' : String}

theorem isNumeral_of_mem_toDigits (large : 1 < base) (small : base ≤ 16) (n : Nat) :
    ∀ c ∈ Nat.toDigits base n, isNumeral c = true := by
  induction n using Nat.strongRecOn with
  | ind n ih =>
    intro c member
    rw [Nat.toDigits_eq_if large] at member
    split at member
    · cases List.mem_singleton.mp member
      exact isNumeral_digitChar n (by omega)
    · rcases List.mem_append.mp member with front | last
      · exact ih (n / base) (Nat.div_lt_self (by omega) large) c front
      · cases List.mem_singleton.mp last
        have := Nat.mod_lt n (show base > 0 by omega)
        exact isNumeral_digitChar (n % base) (by omega)

/-- Digits are those of one number only: the last is what is left of a division, the others are
those of the quotient. -/
theorem toDigits_inj (large : 1 < base) (small : base ≤ 16)
    (same : Nat.toDigits base m = Nat.toDigits base n) : m = n := by
  induction m using Nat.strongRecOn generalizing n with
  | ind m ih =>
    rcases Nat.lt_or_ge m base with one | more <;> rcases Nat.lt_or_ge n base with one' | more'
    · rw [Nat.toDigits_of_lt_base one, Nat.toDigits_of_lt_base one', List.singleton_inj] at same
      exact digitChar_inj m (by omega) n (by omega) same
    · rw [Nat.toDigits_of_lt_base one, Nat.toDigits_of_base_le large more'] at same
      have := congrArg List.length same
      have := Nat.length_toDigits_pos (b := base) (n := n / base)
      simp only [List.length_append, List.length_singleton] at *
      omega
    · rw [Nat.toDigits_of_base_le large more, Nat.toDigits_of_lt_base one'] at same
      have := congrArg List.length same
      have := Nat.length_toDigits_pos (b := base) (n := m / base)
      simp only [List.length_append, List.length_singleton] at *
      omega
    · rw [Nat.toDigits_of_base_le large more, Nat.toDigits_of_base_le large more'] at same
      obtain ⟨quotients, remainders⟩ := List.append_inj' same rfl
      have quotient := ih (m / base) (Nat.div_lt_self (by omega) large) quotients
      have inBase := Nat.mod_lt m (show base > 0 by omega)
      have inBase' := Nat.mod_lt n (show base > 0 by omega)
      have remainder := digitChar_inj (m % base) (by omega) (n % base) (by omega)
        (List.singleton_inj.mp remainders)
      rw [← Nat.div_add_mod m base, ← Nat.div_add_mod n base, quotient, remainder]

theorem numeral_inj (large : 1 < base) (small : base ≤ 16)
    (same : numeral base m = numeral base n) : m = n :=
  toDigits_inj large small (String.ofList_injective same)

/-- The numeral in front of other words is told apart from them. -/
theorem takeWhile_numeral_append (large : 1 < base) (small : base ≤ 16) (ends : stops words = true) :
    (numeral base n ++ (words ++ rest)).toList.takeWhile isNumeral = Nat.toDigits base n := by
  rw [String.toList_append, String.toList_append, numeral, String.toList_ofList,
    List.takeWhile_append_of_pos (isNumeral_of_mem_toDigits large small n)]
  -- The words start with a character that is none of a numeral.
  unfold stops at ends
  cases chars : words.toList with
  | nil =>
    rw [chars] at ends
    cases ends
  | cons c others =>
    rw [chars] at ends
    simp only [List.head?_cons, Option.any_some, Bool.not_eq_true'] at ends
    rw [List.cons_append, List.takeWhile_cons_of_neg (by simp [ends]), List.append_nil]

/-- A numeral in front of other words, and what is behind the words, are read back. -/
theorem numeral_append_inj (large : 1 < base) (small : base ≤ 16) (ends : stops words = true)
    (same : numeral base m ++ (words ++ rest) = numeral base n ++ (words ++ rest')) :
    m = n ∧ rest = rest' := by
  have digits := congrArg (fun text => text.toList.takeWhile isNumeral) same
  simp only [takeWhile_numeral_append large small ends] at digits
  cases toDigits_inj large small digits
  exact ⟨rfl, (String.append_right_inj _).mp ((String.append_right_inj _).mp same)⟩

/-! The numerals of messages are decimal, or hexadecimal behind a mark. -/

theorem decimal_inj (same : toString m = toString n) : m = n :=
  numeral_inj (by decide) (by decide) same

theorem decimal_append_inj (ends : stops words = true)
    (same : toString m ++ (words ++ rest) = toString n ++ (words ++ rest')) :
    m = n ∧ rest = rest' :=
  numeral_append_inj (by decide) (by decide) ends same

theorem Hexadecimal.number_inj (same : number m = number n) : m = n :=
  numeral_inj (by decide) (by decide) ((String.append_right_inj _).mp same)

theorem Hexadecimal.number_append_inj (ends : stops words = true)
    (same : number m ++ (words ++ rest) = number n ++ (words ++ rest')) : m = n ∧ rest = rest' := by
  rw [number, number, String.append_assoc, String.append_assoc, String.append_right_inj] at same
  exact numeral_append_inj (by decide) (by decide) ends same

theorem Hexadecimal.upperDigit_inj :
    ∀ m < 16, ∀ n < 16, upperDigit m = upperDigit n → m = n := by decide

/-- A byte has two digits, so it is read back from whatever it stands in front of. -/
theorem Hexadecimal.byte_append_inj {a b : UInt8} (same : byte a ++ rest = byte b ++ rest') :
    a = b ∧ rest = rest' := by
  have chars := congrArg String.toList same
  simp only [byte, String.toList_append, String.toList_ofList, List.cons_append, List.nil_append,
    List.cons.injEq] at chars
  obtain ⟨high, low, behind⟩ := chars
  have := a.toNat_lt
  have := b.toNat_lt
  have high := upperDigit_inj _ (by omega) _ (by omega) high
  have low := upperDigit_inj _ (by omega) _ (by omega) low
  exact ⟨UInt8.toNat_inj.mp (by omega), String.toList_inj.mp behind⟩

end Numerals

/-! Links. -/

namespace Link

variable {index : UInt16}

theorem text_next (index : UInt16) :
    (next index).text = "Next(" ++ (toString index.toNat ++ ")") :=
  String.append_assoc

/-- No word with another start is the text of a link that goes on. -/
theorem text_next_ne {word : String} (apart : ¬ "Next(".toList <+: word.toList)
    (apart' : ¬ word.toList <+: "Next(".toList) : (next index).text ≠ word := by
  have whole : word ++ "" = word := String.append_empty
  rw [text_next, ← whole]
  exact append_ne_append apart apart' _ _

/-- The text of a link tells which link it is of. -/
theorem text_inj {link link' : Link} : link.text = link'.text ↔ link = link' := by
  refine ⟨fun same => ?_, congrArg text⟩
  cases link <;> cases link'
  case next.next index index' =>
    rw [text_next, text_next, String.append_right_inj, String.append_left_inj] at same
    rw [UInt16.toNat_inj.mp (decimal_inj same)]
  case next.last => exact absurd same (text_next_ne (by decide) (by decide))
  case next.bad => exact absurd same (text_next_ne (by decide) (by decide))
  case last.next => exact absurd same.symm (text_next_ne (by decide) (by decide))
  case bad.next => exact absurd same.symm (text_next_ne (by decide) (by decide))
  case last.bad => exact absurd same (by decide)
  case bad.last => exact absurd same (by decide)
  all_goals rfl

end Link

/-! Conditions. -/

/-- What is wrong, without the details. -/
inductive Condition where
  | invalidSignature
  | invalidCluster
  | badCluster
  | outOfBounds
  | emptyClusters
  | destinationTooSmall
  | noPartition
  | fileNotLoaded
  | unsupportedPath
  | notFound
  | truncated
  deriving DecidableEq

/-- The words that a message of a condition starts with. -/
def Condition.lead : Condition → String
  | invalidSignature => "Invalid filesystem signature ["
  | invalidCluster => "Invalid cluster index "
  | badCluster => "Bad cluster "
  | outOfBounds => "Access of "
  | emptyClusters => "Cluster size is zero"
  | destinationTooSmall => "Destination holds "
  | noPartition => "No partition found in the master boot record"
  | fileNotLoaded => "Cannot load "
  | unsupportedPath => "path is not representable as an 8.3 name"
  | notFound => "file not found in the root directory"
  | truncated => "read "

/-- All conditions. -/
def Condition.all : List Condition :=
  [invalidSignature, invalidCluster, badCluster, outOfBounds, emptyClusters, destinationTooSmall,
    noPartition, fileNotLoaded, unsupportedPath, notFound, truncated]

theorem Condition.mem_all (condition : Condition) : condition ∈ all := by
  cases condition <;> decide

/-- No lead starts another one. -/
theorem Condition.eq_of_lead {condition condition' : Condition}
    (starts : condition.lead.toList <+: condition'.lead.toList) : condition = condition' := by
  have apart : ∀ c ∈ all, ∀ c' ∈ all, c.lead.toList <+: c'.lead.toList → c = c' := by
    decide +kernel
  exact apart condition condition.mem_all condition' condition'.mem_all starts

namespace Abort

/-- What is wrong. -/
def condition : Abort → Condition
  | invalidSignature .. => .invalidSignature
  | invalidCluster .. => .invalidCluster
  | badCluster .. => .badCluster
  | outOfBounds .. => .outOfBounds
  | emptyClusters => .emptyClusters
  | destinationTooSmall .. => .destinationTooSmall
  | noPartition => .noPartition
  | fileNotLoaded .. => .fileNotLoaded

/-- Absence is no condition of an abort. -/
theorem condition_ne (reason : Abort) :
    reason.condition ≠ .unsupportedPath ∧ reason.condition ≠ .notFound ∧
      reason.condition ≠ .truncated := by
  cases reason <;> exact ⟨nofun, nofun, nofun⟩

/-- What a message says behind its lead. -/
def details : Abort → String
  | invalidSignature offset (first, second) =>
    Hexadecimal.byte first ++ (", " ++ (Hexadecimal.byte second ++
      ("] at offset " ++ Hexadecimal.number offset)))
  | invalidCluster index | badCluster index => toString index
  | outOfBounds offset length =>
    toString length ++ (" bytes at offset " ++ (Hexadecimal.number offset ++ " is outside the image"))
  | destinationTooSmall needed available =>
    toString available ++ (" bytes but " ++ (toString needed ++ " are required"))
  | fileNotLoaded path => path
  | emptyClusters | noPartition => ""

theorem message_eq (reason : Abort) : reason.message = reason.condition.lead ++ reason.details := by
  cases reason with
  | invalidSignature offset found =>
    obtain ⟨first, second⟩ := found
    show "Invalid filesystem signature [" ++ Hexadecimal.byte first ++ ", " ++
      Hexadecimal.byte second ++ "] at offset " ++ Hexadecimal.number offset = _
    rw [String.append_assoc, String.append_assoc, String.append_assoc, String.append_assoc]
    rfl
  | invalidCluster index => rfl
  | badCluster index => rfl
  | outOfBounds offset length =>
    show "Access of " ++ toString length ++ " bytes at offset " ++ Hexadecimal.number offset ++
      " is outside the image" = _
    rw [String.append_assoc, String.append_assoc, String.append_assoc]
    rfl
  | emptyClusters => rfl
  | destinationTooSmall needed available =>
    show "Destination holds " ++ toString available ++ " bytes but " ++ toString needed ++
      " are required" = _
    rw [String.append_assoc, String.append_assoc, String.append_assoc]
    rfl
  | noPartition => rfl
  | fileNotLoaded path => rfl

/-- The details tell which abort of its condition it is. -/
theorem eq_of_details {reason reason' : Abort} (sameCondition : reason.condition = reason'.condition)
    (same : reason.details = reason'.details) : reason = reason' := by
  cases reason <;> cases reason' <;> cases sameCondition
  case invalidSignature.invalidSignature offset found offset' found' =>
    obtain ⟨first, behind⟩ := Hexadecimal.byte_append_inj same
    obtain ⟨second, behind⟩ := Hexadecimal.byte_append_inj ((String.append_right_inj _).mp behind)
    have number := Hexadecimal.number_inj ((String.append_right_inj _).mp behind)
    rw [number, Prod.ext first second]
  case invalidCluster.invalidCluster index index' => rw [decimal_inj same]
  case badCluster.badCluster index index' => rw [decimal_inj same]
  case outOfBounds.outOfBounds offset length offset' length' =>
    obtain ⟨sameLength, behind⟩ := decimal_append_inj (by decide) same
    have sameOffset := Hexadecimal.number_inj ((String.append_left_inj _).mp behind)
    rw [sameLength, sameOffset]
  case emptyClusters.emptyClusters => rfl
  case destinationTooSmall.destinationTooSmall needed available needed' available' =>
    obtain ⟨sameAvailable, behind⟩ := decimal_append_inj (by decide) same
    have sameNeeded := decimal_inj ((String.append_left_inj _).mp behind)
    rw [sameAvailable, sameNeeded]
  case noPartition.noPartition => rfl
  case fileNotLoaded.fileNotLoaded path path' => exact congrArg fileNotLoaded same

end Abort

namespace LoadError

/-- What is wrong. -/
def condition : LoadError → Condition
  | abort cause => cause.condition
  | unsupportedPath => .unsupportedPath
  | notFound => .notFound
  | truncated .. => .truncated

/-- What a message says behind its lead. -/
def details : LoadError → String
  | abort cause => cause.details
  | unsupportedPath | notFound => ""
  | truncated expected read => toString read ++ (" bytes but the file has " ++ toString expected)

theorem message_eq (error : LoadError) : error.message = error.condition.lead ++ error.details := by
  cases error with
  | abort cause => exact cause.message_eq
  | unsupportedPath => rfl
  | notFound => rfl
  | truncated expected read =>
    show "read " ++ toString read ++ " bytes but the file has " ++ toString expected = _
    rw [String.append_assoc, String.append_assoc]
    rfl

/-- The details tell which error of its condition it is. -/
theorem eq_of_details {error error' : LoadError} (sameCondition : error.condition = error'.condition)
    (same : error.details = error'.details) : error = error' := by
  cases error <;> cases error'
  case abort.abort cause cause' => rw [Abort.eq_of_details sameCondition same]
  case unsupportedPath.unsupportedPath => rfl
  case notFound.notFound => rfl
  case truncated.truncated expected read expected' read' =>
    obtain ⟨sameRead, behind⟩ := decimal_append_inj (by decide) same
    rw [sameRead, decimal_inj behind]
  case abort.unsupportedPath cause => exact absurd sameCondition cause.condition_ne.1
  case abort.notFound cause => exact absurd sameCondition cause.condition_ne.2.1
  case abort.truncated cause _ _ => exact absurd sameCondition cause.condition_ne.2.2
  case unsupportedPath.abort cause => exact absurd sameCondition.symm cause.condition_ne.1
  case notFound.abort cause => exact absurd sameCondition.symm cause.condition_ne.2.1
  case truncated.abort _ _ cause => exact absurd sameCondition.symm cause.condition_ne.2.2
  all_goals cases sameCondition

/-- Two errors of one message are of one condition: the leads start one text, so one starts the
other. -/
theorem condition_eq_of_message {error error' : LoadError} (same : error.message = error'.message) :
    error.condition = error'.condition := by
  rw [message_eq, message_eq] at same
  rcases starts_of_append_eq same with lead | lead
  · exact Condition.eq_of_lead lead
  · exact (Condition.eq_of_lead lead).symm

theorem eq_of_message {error error' : LoadError} (same : error.message = error'.message) :
    error = error' := by
  have sameCondition := condition_eq_of_message same
  refine eq_of_details sameCondition ?_
  rw [message_eq, message_eq, sameCondition] at same
  exact (String.append_right_inj _).mp same

end LoadError

/-! What the log shows of aborts and load errors. -/

namespace Abort

theorem eq_of_diagnostic {reason reason' : Abort} (same : reason.diagnostic = reason'.diagnostic) :
    reason = reason' := by
  rw [diagnostic, diagnostic, String.append_right_inj] at same
  exact LoadError.abort.inj (LoadError.eq_of_message same)

/-- No diagnostic is a message: what stands for a place starts no lead, and no lead starts it. -/
theorem diagnostic_ne_message (reason : Abort) (error : LoadError) :
    reason.diagnostic ≠ error.message := by
  have apart : ∀ condition ∈ Condition.all, ¬ site.toList <+: condition.lead.toList ∧
      ¬ condition.lead.toList <+: site.toList := by decide +kernel
  obtain ⟨noStart, noStart'⟩ := apart error.condition error.condition.mem_all
  rw [diagnostic, String.append_assoc, error.message_eq]
  exact append_ne_append noStart noStart' _ _

end Abort

namespace LoadError

/-- Every error but an abort is shown as its message. -/
theorem exists_abort_or_text_eq (error : LoadError) :
    (∃ cause, error = .abort cause) ∨ error.text = error.message := by
  cases error with
  | abort cause => exact .inl ⟨cause, rfl⟩
  | _ => exact .inr rfl

/-- The text of a load error tells which error it is of, though an abort is shown with its place and
the others are not. -/
theorem text_inj {error error' : LoadError} : error.text = error'.text ↔ error = error' := by
  refine ⟨fun same => ?_, congrArg text⟩
  rcases error.exists_abort_or_text_eq with ⟨cause, rfl⟩ | shown <;>
    rcases error'.exists_abort_or_text_eq with ⟨cause', rfl⟩ | shown'
  · rw [Abort.eq_of_diagnostic same]
  · rw [shown'] at same
    exact absurd same (cause.diagnostic_ne_message error')
  · rw [shown] at same
    exact absurd same.symm (cause'.diagnostic_ne_message error)
  · rw [shown, shown'] at same
    exact eq_of_message same

end LoadError

/-- **A message tells which error it is of.** Two aborts have one message only if they are one
abort, and so have two load errors, of which aborts keep their own message: whatever the offsets,
lengths, cluster numbers and bytes are, and whatever the path of a file that was not loaded is. The
same holds of the line that a machine halts with. -/
theorem messages_identify :
    (∀ reason reason' : Abort, reason.message = reason'.message ↔ reason = reason') ∧
    (∀ error error' : LoadError, error.message = error'.message ↔ error = error') ∧
    ∀ reason reason' : Abort, reason.line = reason'.line ↔ reason = reason' := by
  have aborts (reason reason' : Abort) (same : reason.message = reason'.message) :
      reason = reason' :=
    LoadError.abort.inj (LoadError.eq_of_message same)
  refine ⟨?_, ?_, ?_⟩
  · intro reason reason'
    exact ⟨aborts reason reason', congrArg Abort.message⟩
  · intro error error'
    exact ⟨LoadError.eq_of_message, congrArg LoadError.message⟩
  · intro reason reason'
    refine ⟨?_, congrArg Abort.line⟩
    intro same
    rw [Abort.line, Abort.line, String.append_left_inj] at same
    exact Abort.eq_of_diagnostic same

end BootDisk
