import Mathlib.Data.Char
import Mathlib.Data.List.DropRight
import Mathlib.Data.List.Induction
import Mathlib.Data.List.TakeWhile
import Outbound.Http.Uri
import Outbound.Url

/-! # The parts of locators and targets

What it says of a text that it is read as a locator of the web, or as a target with a scheme.

* `Url.scheme_of_parse` finds the scheme of a locator of the web before the first colon, and
  something other than slashes behind that.
* `Uri.exists_of_parse` takes a target with a slash in it apart: a scheme, an authority, and a path
  with a query, which `Uri.splitPath_append` takes apart further. -/

namespace Outbound

/-! ## Texts -/

/-- The capital letters are those from `A` to `Z`. -/
theorem isUpper_iff {character : Char} :
    character.isUpper = true ↔ 'A'.val ≤ character.val ∧ character.val ≤ 'Z'.val :=
  decide_eq_true_iff

/-- The small letters are those from `a` to `z`. -/
theorem isLower_iff {character : Char} :
    character.isLower = true ↔ 'a'.val ≤ character.val ∧ character.val ≤ 'z'.val :=
  (Bool.and_eq_true_iff).trans (and_congr decide_eq_true_iff decide_eq_true_iff)

/-- A letter is a capital or a small one. -/
theorem isAlpha_iff {character : Char} :
    character.isAlpha = true ↔ character.isUpper = true ∨ character.isLower = true :=
  Bool.or_eq_true_iff

/-- A character that is no capital letter is written in lower case as itself. -/
theorem toLower_of_not_isUpper {character : Char} (small : ¬ character.isUpper = true) :
    character.toLower = character := dif_neg (isUpper_iff.not.mp small)

/-- A capital letter is written in lower case as a small one. -/
theorem isLower_toLower {character : Char} (upper : character.isUpper = true) :
    character.toLower.isLower = true := by
  have capital := isUpper_iff.mp upper
  have written : character.toLower = ⟨character.val + ('a'.val - 'A'.val), _⟩ := dif_pos capital
  rw [written, isLower_iff, UInt32.le_iff_toNat_le, UInt32.le_iff_toNat_le, UInt32.toNat_add]
  rw [UInt32.le_iff_toNat_le, UInt32.le_iff_toNat_le] at capital
  change 65 ≤ character.val.toNat ∧ character.val.toNat ≤ 90 at capital
  change 97 ≤ (character.val.toNat + 32) % 4294967296 ∧
    (character.val.toNat + 32) % 4294967296 ≤ 122
  omega

/-- A sign is written in lower case as itself, and no other character is. -/
theorem eq_of_toLower_eq {character sign : Char} (isSign : sign.isAlphanum = false)
    (lower : character.toLower = sign) : character = sign := by
  by_cases upper : character.isUpper = true
  · have letter : character.toLower.isAlpha = true := isAlpha_iff.mpr (.inr (isLower_toLower upper))
    rw [Char.isAlphanum, ← lower, letter, Bool.true_or] at isSign
    cases isSign
  · exact (toLower_of_not_isUpper upper).symm.trans lower

/-- Signs are written in lower case as themselves. -/
theorem eq_of_map_toLower {text signs : List Char}
    (areSigns : signs.all (!·.isAlphanum) = true)
    (lower : text.map Char.toLower = signs) : text = signs := by
  subst lower
  have unchanged (character : Char) (member : character ∈ text) :
      character.toLower = character := by
    have isSign := List.all_eq_true.mp areSigns _ (List.mem_map_of_mem member)
    exact (eq_of_toLower_eq (by simpa using isSign) rfl).symm
  rw [List.map_congr_left unchanged, List.map_id']

/-- What stands behind a character that is kept does not change what is dropped before it. -/
theorem rdropWhile_append_cons {α : Type} (drop : α → Bool) {kept : α} (keeps : drop kept = false)
    (front back : List α) :
    (front ++ kept :: back).rdropWhile drop = front ++ kept :: back.rdropWhile drop := by
  induction back using List.reverseRecOn with
  | nil => exact List.rdropWhile_concat_neg _ _ _ (by simp [keeps])
  | append_singleton back last inductionHypothesis =>
      rw [← List.cons_append, ← List.append_assoc, List.rdropWhile_concat, List.rdropWhile_concat,
        inductionHypothesis]
      split <;> simp

/-- The longest start of a text with a property, and the rest, are told from where it ends. -/
theorem takeWhile_append_eq {α : Type} {holds : α → Bool} {front back : List α}
    (inside : ∀ entry ∈ front, holds entry = true)
    (ends : ∀ entry ∈ back.head?, holds entry = false) :
    (front ++ back).takeWhile holds = front := by
  rw [List.takeWhile_append_of_pos inside]
  cases back with
  | nil => simp
  | cons entry back =>
      have fails : holds entry = false := ends entry rfl
      simp [fails]

namespace Url

/-- A character of a scheme is no blank. -/
theorem not_blank_of_isSchemeChar {character : Char} (inScheme : isSchemeChar character = true) :
    ¬ character ≤ ' ' := by
  intro blank
  have small : character.val.toNat ≤ 32 := blank
  simp only [isSchemeChar, Char.isAlphanum, isAlpha_iff, isUpper_iff, isLower_iff, Char.isDigit,
    Bool.or_eq_true, decide_eq_true_eq, Bool.and_eq_true, beq_iff_eq, ge_iff_le,
    UInt32.le_iff_toNat_le] at inScheme
  rcases inScheme with ((((upper | lower) | digit) | rfl) | rfl) | rfl
  · change 65 ≤ character.val.toNat ∧ _ at upper
    omega
  · change 97 ≤ character.val.toNat ∧ _ at lower
    omega
  · change 48 ≤ character.val.toNat ∧ _ at digit
    omega
  all_goals exact absurd small (by decide)

/-- Cleaning a text keeps what is not blank at its front, and adds nothing behind it. -/
theorem exists_cleaned {front : List Char} (solid : ∀ character ∈ front, ¬ character ≤ ' ')
    (starts : front ≠ []) (others : List Char) :
    ∃ rest, cleaned (front ++ others) = front ++ rest ∧ rest ⊆ others := by
  let isBlank (character : Char) : Bool := character ≤ ' '
  let isKept (character : Char) : Bool :=
    character != '\t' && character != '\n' && character != '\r'
  have noBlank (character : Char) (member : character ∈ front) : isBlank character = false :=
    decide_eq_false (solid character member)
  -- Tabs and line ends are blanks, too.
  have keeps (character : Char) (member : character ∈ front) : isKept character = true := by
    have differs (sign : Char) (blank : sign ≤ ' ') : (character != sign) = true := by
      refine bne_iff_ne.mpr ?_
      rintro rfl
      exact solid character member blank
    simp only [isKept, differs '\t' (by decide), differs '\n' (by decide),
      differs '\r' (by decide), Bool.and_self]
  have begins : (front ++ others).dropWhile isBlank = front ++ others := by
    cases front with
    | nil => exact absurd rfl starts
    | cons first front =>
        have solidFirst : isBlank first = false := noBlank first (List.mem_cons_self ..)
        simp [solidFirst]
  have ends : (front ++ others).rdropWhile isBlank = front ++ others.rdropWhile isBlank := by
    obtain ⟨start, last, rfl⟩ := (List.eq_nil_or_concat front).resolve_left starts
    have solidLast : isBlank last = false := noBlank last (by simp)
    simpa using rdropWhile_append_cons isBlank solidLast start others
  refine ⟨(others.rdropWhile isBlank).filter isKept, ?_, fun character member =>
    (List.rdropWhile_prefix isBlank others).subset (List.mem_of_mem_filter member)⟩
  show (((front ++ others).dropWhile isBlank).rdropWhile isBlank).filter isKept = _
  rw [begins, ends, List.filter_append, List.filter_eq_self.mpr keeps]

/-- The scheme of a locator is what stands before its first colon. -/
theorem splitScheme?_append {scheme rest others : List Char} {name : List Char}
    (inScheme : ∀ character ∈ scheme, isSchemeChar character = true)
    (found : splitScheme? (scheme ++ ':' :: rest) = some (name, others)) :
    name = scheme.map Char.toLower ∧ others = rest := by
  have starts : (scheme ++ ':' :: rest).takeWhile isSchemeChar = scheme :=
    takeWhile_append_eq inScheme (by simp; rfl)
  have ends : (scheme ++ ':' :: rest).dropWhile isSchemeChar = ':' :: rest := by
    rw [List.dropWhile_append_of_pos inScheme]
    rfl
  unfold splitScheme? at found
  split at found
  next first tail split =>
    rw [starts, ends] at found
    split at found
    · obtain ⟨rfl, rfl⟩ := Prod.mk.inj (Option.some.inj found)
      exact ⟨rfl, rfl⟩
    · cases found
  · cases found

/-- An authority is read for the scheme that is given. -/
theorem scheme_of_readAuthority {scheme text : List Char} {web : Bool} {url : Url}
    (read : readAuthority scheme web text = .ok url) : url.scheme = String.ofList scheme := by
  simp only [readAuthority, bind, Except.bind] at read
  repeat' split at read
  all_goals (cases read <;> rfl)

/-- A file locator has the scheme of files. -/
theorem scheme_of_readFile {text : List Char} {url : Url} (read : readFile text = .ok url) :
    url.scheme = "file" := by
  simp only [readFile, bind, Except.bind] at read
  repeat' split at read
  all_goals (cases read <;> rfl)

/-- A locator of the web has an authority behind its scheme. -/
theorem exists_of_parse {text : String} {url : Url} (read : parse text = .ok url)
    (web : url.scheme = "http" ∨ url.scheme = "https") :
    ∃ others, splitScheme? (cleaned text.toList) = some (url.scheme.toList, others) ∧
      readAuthority url.scheme.toList true (others.dropWhile isSlash) = .ok url := by
  unfold parse at read
  split at read
  · cases read
  next scheme others found =>
    have ofWeb (named : url.scheme = String.ofList scheme) : kindOf scheme = .web := by
      have known : scheme = "http".toList ∨ scheme = "https".toList := by
        rw [named] at web
        exact web.imp (fun same => by rw [← same, String.toList_ofList])
          fun same => by rw [← same, String.toList_ofList]
      rcases known with rfl | rfl <;> rfl
    cases kind : kindOf scheme with
    | web =>
        simp only [kind] at read
        have same := scheme_of_readAuthority read
        rw [same, String.toList_ofList]
        exact ⟨others, found, read⟩
    | file =>
        simp only [kind] at read
        rw [scheme_of_readFile read] at web
        simp at web
    | other =>
        simp only [kind] at read
        have named : url.scheme = String.ofList scheme := by
          split at read
          · contradiction
          · contradiction
          · exact scheme_of_readAuthority read
          · cases read
            rfl
        rw [ofWeb named] at kind
        cases kind

/-- A locator does not start with a slash. -/
theorem head_ne_of_parse {text : String} {url : Url} (read : parse text = .ok url)
    (others : List Char) : text.toList ≠ '/' :: others := by
  intro starts
  have solid : ∀ character ∈ ['/'], ¬ character ≤ ' ' := by simp
  obtain ⟨rest, cleans, _⟩ := exists_cleaned solid (by simp) others
  have relative : splitScheme? (cleaned text.toList) = none := by
    rw [starts]
    exact congrArg splitScheme? cleans
  simp [parse, relative] at read

/-- The scheme of a locator of the web is written before its first colon, and there is something
other than slashes behind it. -/
theorem scheme_of_parse {text : String} {url : Url} (read : parse text = .ok url)
    (web : url.scheme = "http" ∨ url.scheme = "https") {scheme others : List Char}
    (split : text.toList = scheme ++ ':' :: others)
    (inScheme : ∀ character ∈ scheme, isSchemeChar character = true) :
    scheme.map Char.toLower = url.scheme.toList ∧ ¬ ∀ character ∈ others, character = '/' := by
  have solid : ∀ character ∈ scheme ++ [':'], ¬ character ≤ ' ' := by
    intro character member
    rcases List.mem_append.mp member with inside | colon
    · exact not_blank_of_isSchemeChar (inScheme character inside)
    · obtain rfl := List.mem_singleton.mp colon
      decide
  obtain ⟨rest, cleans, inside⟩ := exists_cleaned solid (by simp) others
  obtain ⟨behind, found, authority⟩ := exists_of_parse read web
  rw [split, ← List.singleton_append, ← List.append_assoc, cleans, List.append_assoc,
    List.singleton_append] at found
  obtain ⟨same, rfl⟩ := splitScheme?_append inScheme found
  refine ⟨same.symm, fun slashes => ?_⟩
  have nothing : behind.dropWhile isSlash = [] :=
    List.dropWhile_eq_nil_iff.mpr fun character member => by
      rw [slashes character (inside member)]
      rfl
  rw [nothing] at authority
  cases authority

end Url

namespace Uri

/-- A scheme in front of a text, capital letters aside. -/
theorem exists_of_startsWithCaseless {name text : List Char}
    (letters : name.all isSchemeChar = true)
    (starts : startsWithCaseless (name ++ "://".toList) text = true) :
    ∃ written, text = written ++ "://".toList ++ text.drop (name.length + 3) ∧
      written.map Char.toLower = name ∧
      ∀ character ∈ written, isSchemeChar character = true := by
  have lowered : (text.take (name.length + 3)).map Char.toLower = name ++ "://".toList := by
    simpa [startsWithCaseless] using starts
  obtain ⟨written, signs, front, lower, signsLower⟩ := List.map_eq_append_iff.mp lowered
  have same : signs = "://".toList := eq_of_map_toLower (by decide) signsLower
  refine ⟨written, ?_, lower, ?_⟩
  · rw [← same, ← front, List.take_append_drop]
  · intro character member
    have inName : character.toLower ∈ name := lower ▸ List.mem_map_of_mem member
    by_cases upper : character.isUpper = true
    · simp [isSchemeChar, Char.isAlphanum, isAlpha_iff, upper]
    · rw [← toLower_of_not_isUpper upper]
      exact List.all_eq_true.mp letters _ inName

/-- A text starts with its scheme, capital letters aside. -/
theorem startsWithCaseless_append {written name : List Char}
    (lower : written.map Char.toLower = name) (rest : List Char) :
    startsWithCaseless (name ++ "://".toList) (written ++ "://".toList ++ rest) = true := by
  have sameLength : (name ++ "://".toList).length = (written ++ "://".toList).length := by
    simp [← lower]
  rw [startsWithCaseless, sameLength, List.take_left, List.map_append, lower]
  exact beq_self_eq_true _

/-- A target with a scheme starts with it and with a colon and two slashes; the schemes of the web
are told in lower case. -/
theorem exists_of_splitScheme {text others : List Char} {scheme : String}
    (read : splitScheme text = .ok (some scheme, others)) :
    ∃ written, text = written ++ "://".toList ++ others ∧
      (∀ character ∈ written, isSchemeChar character = true) ∧
      ∀ name, name = "http" ∨ name = "https" → written.map Char.toLower = name.toList →
        scheme = name := by
  have ofWeb (web : String) (letters : web.toList.all isSchemeChar = true)
      (starts : startsWithCaseless (web.toList ++ "://".toList) text = true)
      (found : scheme = web ∧ others = text.drop (web.toList.length + 3)) :
      ∃ written, text = written ++ "://".toList ++ others ∧
        (∀ character ∈ written, isSchemeChar character = true) ∧
        ∀ name, name = "http" ∨ name = "https" → written.map Char.toLower = name.toList →
          scheme = name := by
    obtain ⟨written, split, lower, inScheme⟩ := exists_of_startsWithCaseless letters starts
    obtain ⟨rfl, rfl⟩ := found
    exact ⟨written, split, inScheme, fun name _ same => String.toList_injective (lower ▸ same)⟩
  unfold splitScheme at read
  split at read
  next starts =>
    obtain ⟨same, rest⟩ := Prod.mk.inj (Except.ok.inj read)
    exact ofWeb "http" (by decide) starts ⟨(Option.some.inj same).symm, rest.symm⟩
  next notPlain =>
    split at read
    next starts =>
      obtain ⟨same, rest⟩ := Prod.mk.inj (Except.ok.inj read)
      exact ofWeb "https" (by decide) starts ⟨(Option.some.inj same).symm, rest.symm⟩
    next notSecure =>
      -- Any other scheme is told as it is written, and is none of the web.
      simp only at read
      split at read
      next marked =>
        split at read
        · cases read
        · obtain ⟨same, rest⟩ := Prod.mk.inj (Except.ok.inj read)
          let written := text.takeWhile isSchemeChar
          have split : text = written ++ "://".toList ++ others := by
            rw [← rest, ← marked.2, List.append_assoc, List.take_append_drop,
              List.takeWhile_append_dropWhile]
          refine ⟨written, split, fun character member => List.mem_takeWhile_imp member, ?_⟩
          rintro name (rfl | rfl) lower
          · exact absurd (split ▸ startsWithCaseless_append lower others) notPlain
          · exact absurd (split ▸ startsWithCaseless_append lower others) notSecure
      next => cases read

/-- An authority ends where a path, a query or a fragment starts. -/
theorem splitAuthority_eq {text authority rest : List Char}
    (read : splitAuthority text = .ok (authority, rest)) :
    text = authority ++ rest ∧ (∀ character ∈ authority, endsAuthority character = false) ∧
      ∀ character ∈ rest.head?, endsAuthority character = true := by
  let inside (character : Char) : Bool := !endsAuthority character
  have found : authority = text.takeWhile inside ∧ rest = text.drop authority.length := by
    simp only [splitAuthority, bind, Except.bind] at read
    repeat' split at read
    all_goals first | (cases read; exact ⟨rfl, rfl⟩) | cases read
  have behind : rest = text.dropWhile inside := by
    rw [found.2, found.1]
    conv_lhs => arg 2; rw [← List.takeWhile_append_dropWhile (p := inside) (l := text)]
    exact List.drop_left
  refine ⟨?_, ?_, ?_⟩
  · rw [found.1, behind, List.takeWhile_append_dropWhile]
  · intro character member
    rw [found.1] at member
    simpa [inside] using List.mem_takeWhile_imp member
  · intro character member
    have stops := List.head?_dropWhile_not inside text
    rw [← behind, Option.mem_def.mp member] at stops
    simpa [inside] using stops

/-- Whether a character leaves a path: no question mark and no number sign. -/
def staysInPath (character : Char) : Bool := character != '?' && character != '#'

/-- The query behind a question mark at the front of a text, up to a number sign. -/
def queryAt : List Char → Option String
  | '?' :: others => some (String.ofList (others.takeWhile (· != '#')))
  | _ => none

/-- A path ends at its first question mark or number sign, and the query is told from there. -/
theorem splitPath_append {front back : List Char} {path : String} {query : Option String}
    (stays : ∀ character ∈ front, staysInPath character = true)
    (ends : ∀ character ∈ back.head?, staysInPath character = false)
    (read : splitPath (front ++ back) = .ok (path, query)) :
    path = String.ofList front ∧ query = queryAt back := by
  have whole : (front ++ back).takeWhile (fun character => character != '?' && character != '#')
      = front := takeWhile_append_eq stays ends
  simp only [splitPath, whole, List.drop_left] at read
  split at read
  · cases read
  · split at read
    next others =>
      split at read
      · obtain ⟨rfl, rfl⟩ := Prod.mk.inj (Except.ok.inj read)
        exact ⟨rfl, rfl⟩
      · cases read
    next unmarked =>
      obtain ⟨rfl, rfl⟩ := Prod.mk.inj (Except.ok.inj read)
      refine ⟨rfl, ?_⟩
      unfold queryAt
      split
      next others => exact absurd rfl (unmarked others)
      · rfl

/-- A text without a scheme is left as it is. -/
theorem eq_of_splitScheme {text others : List Char} (read : splitScheme text = .ok (none, others)) :
    others = text := by
  unfold splitScheme at read
  simp only at read
  repeat' split at read
  all_goals (cases read <;> rfl)

/-- A target was read off a text with a scheme, an authority, and a path with a query. -/
structure ReadOff (uri : Uri) (text scheme authority rest : List Char) : Prop where
  /-- The parts of the text. -/
  split : text = scheme ++ "://".toList ++ (authority ++ rest)
  /-- The scheme is built like one. -/
  inScheme : ∀ character ∈ scheme, isSchemeChar character = true
  /-- The schemes of the web are told in lower case. -/
  named : ∀ name, name = "http" ∨ name = "https" → scheme.map Char.toLower = name.toList →
    uri.scheme = some name
  /-- There is an authority. -/
  someAuthority : authority ≠ []
  /-- The authority does not end early. -/
  inside : ∀ character ∈ authority, endsAuthority character = false
  /-- The authority does not end late. -/
  ends : ∀ character ∈ rest.head?, endsAuthority character = true
  /-- The authority is told as it is written. -/
  authority : uri.authority = some (String.ofList authority)
  /-- The rest is the path with the query. -/
  path : splitPath rest = .ok (uri.writtenPath, uri.query)

/-- A text with a slash that is read as no path has a scheme. -/
theorem exists_of_parseLong {text : List Char} {uri : Uri} (read : parseLong text = .ok uri)
    (slash : '/' ∈ text) : ∃ scheme authority rest, uri.ReadOff text scheme authority rest := by
  simp only [parseLong, bind, Except.bind] at read
  split at read
  · cases read
  next parts foundScheme =>
    obtain ⟨scheme?, others⟩ := parts
    simp only at read
    split at read
    · cases read
    next parts foundAuthority =>
      obtain ⟨authority, rest⟩ := parts
      obtain ⟨split, inside, ends⟩ := splitAuthority_eq foundAuthority
      cases scheme? with
      | none =>
          -- Without a scheme there would be an authority alone, which has no slash.
          simp only at read
          split at read
          next nothing =>
            rw [List.isEmpty_iff] at nothing
            rw [eq_of_splitScheme foundScheme] at split
            rw [split, nothing, List.append_nil] at slash
            have slashEnds : endsAuthority '/' = false := inside '/' slash
            cases slashEnds
          · cases read
      | some scheme =>
          simp only at read
          split at read
          · cases read
          next someAuthority =>
            split at read
            · cases read
            next parts foundPath =>
              obtain rfl := Except.ok.inj read
              obtain ⟨written, whole, inScheme, named⟩ := exists_of_splitScheme foundScheme
              exact ⟨written, authority, rest,
                { split := split ▸ whole
                  inScheme
                  named := fun name web lower => congrArg some (named name web lower)
                  someAuthority := fun empty => someAuthority (by rw [empty]; rfl)
                  inside
                  ends
                  authority := rfl
                  path := foundPath }⟩

/-- A text with a slash, but not at its front, is read as a target with a scheme. -/
theorem exists_of_parse {text : String} {uri : Uri} (read : parse text = .ok uri)
    (notPath : ∀ others, text.toList ≠ '/' :: others) (slash : '/' ∈ text.toList) :
    ∃ scheme authority rest, uri.ReadOff text.toList scheme authority rest := by
  unfold parse at read
  split at read
  · cases read
  · split at read
    next nothing => simp [nothing] at slash
    next star => simp [star] at slash
    next others starts => exact absurd starts (notPath others)
    next single _ _ alone =>
      rw [alone, List.mem_singleton] at slash
      exact absurd (slash ▸ alone) (notPath [])
    next => exact exists_of_parseLong read slash

end Uri

end Outbound
