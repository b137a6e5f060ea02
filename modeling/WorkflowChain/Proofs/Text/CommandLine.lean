import WorkflowChain.Compile.Compilation
import Mathlib.Data.List.Basic

/-! # Words of a command line

What the words of a line are can be said without reading it from left to right: a word is made up of
ordinary characters and of texts between quotes, and between words stand delimiters and comments
(`Text.ShellWords.Reads`). The reader finds just the words that these rules give, and it finds none
only where the rules give none (`Text.ShellWords.split?_eq_some_iff`).

Words between single quotes are words by these rules, whatever is between the quotes. So a command
that was written with its words between quotes has just these words, also if it goes on over several
lines (`commandWords_of_quotes`).
-/

namespace WorkflowChain

namespace Text.ShellWords

/-! ## Rules for words -/

/-- What is written for a word, or for the rest of one that has begun. -/
inductive Spells : List Char → List Char → Prop
  | nil : Spells [] []
  | plain {c : Char} {written word : List Char} (noQuote : isQuote c = false)
    (inside : isDelimiter c = false) (later : Spells written word) :
    Spells (c :: written) (c :: word)
  | quoted {quote : Char} {text written word : List Char} (opens : isQuote quote = true)
    (inside : quote ∉ text) (later : Spells written word) :
    Spells (quote :: (text ++ quote :: written)) (text ++ word)

/-- A line has these words. A word goes on up to a delimiter, and a comment up to the end of its
line; what begins with a number sign is a comment. -/
inductive Reads : List Char → List String → Prop
  | nil : Reads [] []
  | delimiter {c : Char} {rest : List Char} {words : List String} (divides : isDelimiter c = true)
    (later : Reads rest words) : Reads (c :: rest) words
  | comment {text rest : List Char} {words : List String} (inLine : '\n' ∉ text)
    (ended : ∀ c ∈ rest.head?, c = '\n') (later : Reads rest words) :
    Reads ('#' :: (text ++ rest)) words
  | word {c : Char} {written word rest : List Char} {words : List String}
    (spelled : Spells (c :: written) word) (noComment : c ≠ '#')
    (ended : ∀ c ∈ rest.head?, isDelimiter c = true) (later : Reads rest words) :
    Reads (c :: (written ++ rest)) (String.ofList word :: words)

theorem isQuote_eq_false {c : Char} (divides : isDelimiter c = true) : isQuote c = false := by
  simp only [isDelimiter, Bool.or_eq_true, decide_eq_true_eq] at divides
  rcases divides with (rfl | rfl) | rfl <;> decide

theorem isDelimiter_eq_false {c : Char} (opens : isQuote c = true) : isDelimiter c = false := by
  by_contra divides
  rw [Bool.not_eq_false] at divides
  rw [isQuote_eq_false divides] at opens
  cases opens

/-- A word that is spelled out does not begin with what divides words. -/
theorem Spells.isDelimiter_head {c : Char} {written word : List Char}
    (spelled : Spells (c :: written) word) : isDelimiter c = false := by
  cases spelled with
  | plain _ inside => exact inside
  | quoted opens => exact isDelimiter_eq_false opens

/-! ## One character after the other -/

section Character

variable (c : Char) (before rest : List Char)

theorem read_gap_cons :
    read .gap before (c :: rest) =
      if isQuote c then read (.quoted c) before rest
      else if isDelimiter c then read .gap before rest
      else if c = '#' then read .comment before rest
      else read .word (c :: before) rest := rfl

theorem read_word_cons :
    read .word before (c :: rest) =
      if isQuote c then read (.quoted c) before rest
      else if isDelimiter c then (read .gap [] rest).map (String.ofList before.reverse :: ·)
      else read .word (c :: before) rest := rfl

theorem read_quoted_cons (quote : Char) :
    read (.quoted quote) before (c :: rest) =
      if c = quote then read .word before rest else read (.quoted quote) (c :: before) rest := rfl

theorem read_comment_cons :
    read .comment before (c :: rest) =
      if c = '\n' then read .gap before rest else read .comment before rest := rfl

end Character

/-! ## The reader finds the words of the rules -/

section Read

variable {c : Char} {rest : List Char}

/-- Between words, delimiters are passed over. -/
theorem read_gap_delimiter (divides : isDelimiter c = true) (before : List Char) :
    read .gap before (c :: rest) = read .gap before rest := by
  simp [read_gap_cons, isQuote_eq_false divides, divides]

/-- Between words, what is neither a delimiter nor begins a comment begins a word. -/
theorem read_gap_word (inside : isDelimiter c = false) (noComment : c ≠ '#')
    (before : List Char) : read .gap before (c :: rest) = read .word before (c :: rest) := by
  simp [read_gap_cons, read_word_cons, inside, noComment]

/-- A word ends at a delimiter or with the line. -/
theorem read_word_ended (ended : ∀ c ∈ rest.head?, isDelimiter c = true) (before : List Char) :
    read .word before rest =
      (read .gap [] rest).map (String.ofList before.reverse :: ·) := by
  cases rest with
  | nil => rfl
  | cons c rest =>
    have divides := ended c rfl
    rw [read_gap_delimiter divides]
    simp [read_word_cons, isQuote_eq_false divides, divides]

/-- A quoted stretch is read up to the quotation mark that ends it, and all of it belongs to the
word. -/
theorem read_quoted {quote : Char} {text : List Char} (inside : quote ∉ text)
    (before : List Char) :
    read (.quoted quote) before (text ++ quote :: rest) =
      read .word (text.reverse ++ before) rest := by
  induction text generalizing before with
  | nil => simp [read_quoted_cons]
  | cons d text ih =>
    have ⟨other, later⟩ := not_or.mp (mt List.mem_cons.mpr inside)
    simp [read_quoted_cons, Ne.symm other, ih later]

/-- A comment is passed over up to the end of its line. -/
theorem read_comment {text : List Char} (inLine : '\n' ∉ text)
    (ended : ∀ c ∈ rest.head?, c = '\n') :
    read .comment [] (text ++ rest) = read .gap [] rest := by
  induction text with
  | nil =>
    cases rest with
    | nil => rfl
    | cons c rest =>
      obtain rfl := ended c rfl
      rw [read_gap_delimiter (by decide)]
      simp [read_comment_cons]
  | cons d text ih =>
    have ⟨other, later⟩ := not_or.mp (mt List.mem_cons.mpr inLine)
    simp [read_comment_cons, Ne.symm other, ih later]

/-- What spells a word is read as the word. -/
theorem Spells.read_word {written word : List Char} (spelled : Spells written word)
    (before : List Char) :
    read .word before (written ++ rest) = read .word (word.reverse ++ before) rest := by
  induction spelled generalizing before with
  | nil => rfl
  | plain noQuote inside _ ih => simp [read_word_cons, noQuote, inside, ih]
  | quoted opens inside _ ih => simp [read_word_cons, opens, read_quoted inside, ih]

/-- **The reader finds what there is to read.** If a line reads as some words, these are its result.
-/
theorem Reads.read_gap {line : List Char} {words : List String} (reads : Reads line words) :
    read .gap [] line = some words := by
  induction reads with
  | nil => rfl
  | delimiter divides _ ih => rw [read_gap_delimiter divides, ih]
  | comment inLine ended _ ih =>
    rw [← ih, ← read_comment inLine ended]
    rfl
  | word spelled noComment ended _ ih =>
    rw [read_gap_word spelled.isDelimiter_head noComment, ← List.cons_append, spelled.read_word,
      read_word_ended ended, ih]
    simp

end Read

/-! ## The rules give the words that the reader finds -/

/-- A word has begun with these characters, and a line goes on with the rest of the word and with
the other words. -/
def Continues (before line : List Char) (words : List String) : Prop :=
  ∃ written word rest others, line = written ++ rest ∧ Spells written word ∧
    (∀ c ∈ rest.head?, isDelimiter c = true) ∧ Reads rest others ∧
    words = String.ofList (before.reverse ++ word) :: others

/-- What is left of a line for a reader at a place. -/
def Follows : Place → List Char → List Char → List String → Prop
  | .gap, before, line, words => before = [] → Reads line words
  | .word, before, line, words => Continues before line words
  | .quoted quote, before, line, words => ∃ text rest, line = text ++ quote :: rest ∧
      quote ∉ text ∧ Continues (text.reverse ++ before) rest words
  | .comment, before, line, words => before = [] → ∃ text rest, line = text ++ rest ∧
      '\n' ∉ text ∧ (∀ c ∈ rest.head?, c = '\n') ∧ Reads rest words

/-- A character outside quotes goes on with the word that was begun. -/
theorem Continues.plain {c : Char} {before line : List Char} {words : List String}
    (noQuote : isQuote c = false) (inside : isDelimiter c = false)
    (continues : Continues (c :: before) line words) : Continues before (c :: line) words := by
  obtain ⟨written, word, rest, others, rfl, spelled, ended, reads, rfl⟩ := continues
  refine ⟨c :: written, c :: word, rest, others, rfl, spelled.plain noQuote inside, ended, reads,
    ?_⟩
  simp

/-- A quoted stretch goes on with the word that was begun. -/
theorem Continues.quoted {quote : Char} {text before line : List Char} {words : List String}
    (opens : isQuote quote = true) (inside : quote ∉ text)
    (continues : Continues (text.reverse ++ before) line words) :
    Continues before (quote :: (text ++ quote :: line)) words := by
  obtain ⟨written, word, rest, others, rfl, spelled, ended, reads, rfl⟩ := continues
  refine ⟨quote :: (text ++ quote :: written), text ++ word, rest, others, by simp,
    spelled.quoted opens inside, ended, reads, ?_⟩
  simp

/-- A word that begins after a gap is a word of the line. -/
theorem Continues.reads {c : Char} {line : List Char} {words : List String} (noComment : c ≠ '#')
    (inside : isDelimiter c = false) (continues : Continues [] (c :: line) words) :
    Reads (c :: line) words := by
  obtain ⟨written, word, rest, others, same, spelled, ended, reads, rfl⟩ := continues
  cases written with
  | nil =>
    rw [List.nil_append] at same
    subst same
    rw [ended c rfl] at inside
    cases inside
  | cons d written =>
    obtain ⟨rfl, rfl⟩ := List.cons.inj same
    exact .word spelled noComment ended reads

section Step

variable {c : Char} {before line : List Char} {words : List String}
  (later : ∀ {place before words}, read place before line = some words →
    Follows place before line words)

include later

theorem follows_gap (found : read .gap [] (c :: line) = some words) :
    Follows .gap [] (c :: line) words := by
  intro _
  rw [read_gap_cons] at found
  split at found
  next opens =>
    obtain ⟨text, rest, rfl, inside, continues⟩ := later found
    have noComment : c ≠ '#' := by
      rintro rfl
      cases opens
    exact (continues.quoted opens inside).reads noComment (isDelimiter_eq_false opens)
  next noQuote =>
    rw [Bool.not_eq_true] at noQuote
    split at found
    next divides => exact .delimiter divides (later found rfl)
    next inside =>
      rw [Bool.not_eq_true] at inside
      split at found
      next comment =>
        subst comment
        obtain ⟨text, rest, rfl, inLine, ended, reads⟩ := later found rfl
        exact .comment inLine ended reads
      next noComment =>
        have continues : Continues [c] line words := later found
        exact (continues.plain noQuote inside).reads noComment inside

theorem follows_word (found : read .word before (c :: line) = some words) :
    Follows .word before (c :: line) words := by
  rw [read_word_cons] at found
  split at found
  next opens =>
    obtain ⟨text, rest, rfl, inside, continues⟩ := later found
    exact continues.quoted opens inside
  next noQuote =>
    rw [Bool.not_eq_true] at noQuote
    split at found
    next divides =>
      obtain ⟨others, ran, rfl⟩ := Option.map_eq_some_iff.mp found
      have reads : Reads line others := later ran rfl
      exact ⟨[], [], c :: line, others, rfl, .nil, by simpa using divides,
        .delimiter divides reads, by simp⟩
    next inside =>
      rw [Bool.not_eq_true] at inside
      have continues : Continues (c :: before) line words := later found
      exact continues.plain noQuote inside

theorem follows_quoted {quote : Char}
    (found : read (.quoted quote) before (c :: line) = some words) :
    Follows (.quoted quote) before (c :: line) words := by
  rw [read_quoted_cons] at found
  split at found
  next closes =>
    subst closes
    exact ⟨[], line, rfl, List.not_mem_nil, later found⟩
  next other =>
    obtain ⟨text, rest, rfl, inside, continues⟩ := later found
    refine ⟨c :: text, rest, rfl, List.not_mem_cons_of_ne_of_not_mem (Ne.symm other) inside, ?_⟩
    simpa using continues

theorem follows_comment (found : read .comment [] (c :: line) = some words) :
    Follows .comment [] (c :: line) words := by
  intro _
  rw [read_comment_cons] at found
  split at found
  next ends =>
    subst ends
    have reads : Reads line words := later found rfl
    exact ⟨[], '\n' :: line, rfl, List.not_mem_nil, by simp, .delimiter (by decide) reads⟩
  next other =>
    obtain ⟨text, rest, rfl, inLine, ended, reads⟩ := later found rfl
    exact ⟨c :: text, rest, rfl, List.not_mem_cons_of_ne_of_not_mem (Ne.symm other) inLine, ended,
      reads⟩

end Step

/-- **The reader finds nothing else.** Its result at each place is what can follow there. -/
theorem follows_of_read {place : Place} {before line : List Char} {words : List String}
    (found : read place before line = some words) : Follows place before line words := by
  induction line generalizing place before words with
  | nil =>
    cases place with
    | gap =>
      cases found
      exact fun _ => .nil
    | word =>
      cases found
      exact ⟨[], [], [], [], rfl, .nil, nofun, .nil, by simp⟩
    | quoted => cases found
    | comment =>
      cases found
      exact fun _ => ⟨[], [], rfl, List.not_mem_nil, nofun, .nil⟩
  | cons c line ih =>
    cases place with
    | gap =>
      rintro rfl
      exact follows_gap ih found rfl
    | word => exact follows_word ih found
    | quoted quote => exact follows_quoted ih found
    | comment =>
      rintro rfl
      exact follows_comment ih found rfl

/-- **The words of a line.** The reader finds words exactly if they are the words of the line. -/
theorem split?_eq_some_iff {line : String} {words : List String} :
    split? line = some words ↔ Reads line.toList words :=
  ⟨fun found => follows_of_read found rfl, Reads.read_gap⟩

/-! ## Words between quotes -/

/-- A word between single quotes. -/
def singleQuoted (word : String) : String := "'" ++ word ++ "'"

/-- What stands between two words: delimiters, and anywhere among them the backslashes that continue
lines. -/
structure IsGap (gap : String) : Prop where
  known : ∀ c ∈ gap.toList, isDelimiter c = true ∨ c = '\\'
  divides : ∃ c ∈ gap.toList, isDelimiter c = true

/-- A gap has nothing but delimiters and backslashes, and at least one delimiter. -/
theorem isGap_iff {gap : String} :
    IsGap gap ↔ gap.toList.all (fun c => isDelimiter c || c == '\\') = true ∧
      gap.toList.any isDelimiter = true := by
  simp only [List.all_eq_true, List.any_eq_true, Bool.or_eq_true, beq_iff_eq]
  exact ⟨fun ⟨known, divides⟩ => ⟨known, divides⟩, fun ⟨known, divides⟩ => ⟨known, divides⟩⟩

instance (gap : String) : Decidable (IsGap gap) := decidable_of_iff _ isGap_iff.symm

/-- A line has these words between single quotes, with gaps between them. -/
inductive Quotes : String → List String → Prop
  | none : Quotes "" []
  | last (word : String) : Quotes (singleQuoted word) [word]
  | more (word : String) {gap line next : String} {others : List String} (between : IsGap gap)
    (later : Quotes line (next :: others)) :
    Quotes (singleQuoted word ++ gap ++ line) (word :: next :: others)

/-- No single quote and no backslash is in a word. -/
def IsPlain (word : String) : Prop := '\'' ∉ word.toList ∧ '\\' ∉ word.toList

instance (word : String) : Decidable (IsPlain word) := inferInstanceAs (Decidable (_ ∧ _))

theorem toList_withoutChar (unwanted : Char) (text : String) :
    (withoutChar unwanted text).toList = text.toList.filter (· != unwanted) :=
  String.toList_ofList

theorem withoutChar_append (unwanted : Char) (text more : String) :
    withoutChar unwanted (text ++ more) =
      withoutChar unwanted text ++ withoutChar unwanted more := by
  apply String.toList_inj.mp
  simp [toList_withoutChar]

/-- A quoted word has no backslash that could be taken away. -/
theorem withoutChar_singleQuoted {word : String} (plain : IsPlain word) :
    withoutChar '\\' (singleQuoted word) = singleQuoted word := by
  have kept : word.toList.filter (· != '\\') = word.toList := by
    rw [List.filter_eq_self]
    intro c member
    rw [bne_iff_ne]
    rintro rfl
    exact plain.2 member
  apply String.toList_inj.mp
  simp [toList_withoutChar, singleQuoted, kept]

/-- Without backslashes a gap has only delimiters. -/
theorem IsGap.isDelimiter_withoutChar {gap : String} (isGap : IsGap gap) :
    ∀ c ∈ (withoutChar '\\' gap).toList, isDelimiter c = true := by
  intro c member
  rw [toList_withoutChar, List.mem_filter, bne_iff_ne] at member
  exact (isGap.known c member.1).resolve_right member.2

/-- Without backslashes a gap is still one. -/
theorem IsGap.withoutChar_ne_nil {gap : String} (isGap : IsGap gap) :
    (withoutChar '\\' gap).toList ≠ [] := by
  obtain ⟨c, member, divides⟩ := isGap.divides
  have kept : c ∈ (withoutChar '\\' gap).toList := by
    rw [toList_withoutChar, List.mem_filter, bne_iff_ne]
    refine ⟨member, ?_⟩
    rintro rfl
    cases divides
  exact List.ne_nil_of_mem kept

section Rules

variable {rest : List Char} {words : List String}

theorem Reads.gap {gap : List Char} (divides : ∀ c ∈ gap, isDelimiter c = true)
    (later : Reads rest words) : Reads (gap ++ rest) words := by
  induction gap with
  | nil => exact later
  | cons c gap ih =>
    have ⟨own, others⟩ := List.forall_mem_cons.mp divides
    exact .delimiter own (ih others)

/-- A text between quotes is a word, whatever its characters are. -/
theorem Reads.singleQuoted {word : String} (plain : '\'' ∉ word.toList)
    (ended : ∀ c ∈ rest.head?, isDelimiter c = true) (later : Reads rest words) :
    Reads ((singleQuoted word).toList ++ rest) (word :: words) := by
  have spelled : Spells ('\'' :: (word.toList ++ ['\''])) (word.toList ++ []) :=
    .quoted (by decide) plain .nil
  have reads := Reads.word spelled (by decide) ended later
  simpa [ShellWords.singleQuoted] using reads

end Rules

/-- A line of quoted words reads as these words, once the backslashes in its gaps are taken away. -/
theorem Quotes.reads {line : String} {words : List String} (quotes : Quotes line words)
    (plain : ∀ word ∈ words, IsPlain word) : Reads (withoutChar '\\' line).toList words := by
  induction quotes with
  | none => exact .nil
  | last word =>
    have own := plain word List.mem_cons_self
    rw [withoutChar_singleQuoted own, ← List.append_nil (singleQuoted word).toList]
    exact .singleQuoted own.1 nofun .nil
  | @more word gap line next others between _ ih =>
    have ⟨own, later⟩ := List.forall_mem_cons.mp plain
    have divides := between.isDelimiter_withoutChar
    -- The backslashes are gone, but the gap still has a delimiter that ends the word.
    have ended : ∀ c ∈ ((withoutChar '\\' gap).toList ++ (withoutChar '\\' line).toList).head?,
        isDelimiter c = true := by
      rw [List.head?_append_of_ne_nil _ between.withoutChar_ne_nil]
      exact fun c first => divides c (List.mem_of_mem_head? first)
    rw [withoutChar_append, withoutChar_append, withoutChar_singleQuoted own, String.append_assoc,
      String.toList_append, String.toList_append]
    exact .singleQuoted own.1 ended (.gap divides (ih later))

end Text.ShellWords

open Text.ShellWords

/-- **Words between quotes are read back.** Without the backslashes, the words of the line are those
that were written, its quotes are balanced, and so these are the words of the command. -/
theorem commandWords_of_quotes {line : String} {words : List String} (quotes : Quotes line words)
    (plain : ∀ word ∈ words, IsPlain word) :
    Reads (Text.withoutChar '\\' line).toList words ∧
      split? (Text.withoutChar '\\' line) = some words ∧ commandWords line = words := by
  have reads := quotes.reads plain
  have found := split?_eq_some_iff.mpr reads
  refine ⟨reads, found, ?_⟩
  rw [commandWords, split, found]
  rfl

/-- A command that goes on over a second line, with a word that has blanks and quotes, an empty word
and one that looks like a comment. -/
theorem commandWords_continued :
    Quotes "'run \"it\".sh' \\\n\t'' \\ '# all'" ["run \"it\".sh", "", "# all"] ∧
      (∀ word ∈ ["run \"it\".sh", "", "# all"], IsPlain word) ∧
      commandWords "'run \"it\".sh' \\\n\t'' \\ '# all'" = ["run \"it\".sh", "", "# all"] := by
  have quotes : Quotes "'run \"it\".sh' \\\n\t'' \\ '# all'" ["run \"it\".sh", "", "# all"] :=
    .more "run \"it\".sh" (by decide : IsGap " \\\n\t")
      (.more "" (by decide : IsGap " \\ ") (.last "# all"))
  have plain : ∀ word ∈ ["run \"it\".sh", "", "# all"], IsPlain word := by decide
  exact ⟨quotes, plain, (commandWords_of_quotes quotes plain).2.2⟩

end WorkflowChain
