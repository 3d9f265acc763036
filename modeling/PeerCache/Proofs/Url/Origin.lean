/-
Module: PeerCache.Proofs.Url.Origin
Purpose: Addresses that are made of a web address and a path after it.
Main exports:
  Url.IsReadAs, Url.IsReadAs.append, Url.IsWebAddress, Url.Origin, Url.Origin.text,
  Url.Origin.parse_append
-/
import PeerCache.Proofs.Url.Segments

/-!
The address of a peer is its name with a base path after it.  Where one ends and the other begins
shows in the text: the first slash after the host ends the authority.  So the address has the
authority of the name, whatever the path holds (`IsReadAs.append`).

A peer is mostly named by its scheme, host and port (`Origin`).  Then nothing but the base path
follows the authority (`Origin.parse_append`).
-/

namespace PeerCache.Url

variable {written path scheme : String} {authority : Authority} {characters left : List Char}
  {url : Url}

/-! ### What ends at the first slash -/

/-- Characters are parted by a test at the same place, if others follow behind one that fails
it. -/
theorem span_before (test : Char → Bool) {stop : Char} (stops : test stop = false)
    (characters following : List Char) :
    (characters ++ stop :: following).takeWhile test = characters.takeWhile test ∧
      (characters ++ stop :: following).dropWhile test =
        characters.dropWhile test ++ stop :: following := by
  induction characters with
  | nil => simp [stops]
  | cons first rest hyp =>
      cases passes : test first with
      | false => simp [passes]
      | true => simp [passes, hyp]

/-- A slash and what follows it does not change how an authority is read. -/
theorem readAuthority_before_slash (special : isSpecial scheme = true)
    (reads : readAuthority scheme characters = .ok (authority, left)) (following : List Char) :
    readAuthority scheme (characters ++ '/' :: following) =
      .ok (authority, left ++ '/' :: following) := by
  obtain ⟨taken, dropped⟩ := span_before (fun character => !endsAuthority true character)
    (rfl : (!endsAuthority true '/') = false) characters following
  unfold readAuthority at reads ⊢
  simp only [special, taken, dropped] at reads ⊢
  cases user : splitUserinfo (characters.takeWhile fun character =>
    !endsAuthority true character) with
  | mk userinfo hostAndPort =>
  cases host : splitHost false hostAndPort with
  | mk hostText afterHost =>
  simp only [user, host, throw, throwThe, MonadExceptOf.throw, bind, Except.bind, pure,
    Except.pure, if_true, true_and] at reads ⊢
  by_cases noHost : hostText = []
  · by_cases noUser : userinfo = some [] ∧ hostAndPort = [] ∧
        (characters.dropWhile fun character => !endsAuthority true character) ≠ []
    · simp [noUser] at reads
    · simp [noHost] at reads
  have some_text : hostAndPort ≠ [] := by
    rintro rfl
    exact noHost (congrArg Prod.fst host).symm
  simp only [noHost, some_text, false_and, and_false, if_false] at reads ⊢
  cases named : Host.ofSpecial (String.ofList hostText) with
  | error error => simp [named] at reads
  | ok host =>
      simp only [named] at reads ⊢
      by_cases emptyHost : host.isEmpty = true ∧ afterHost.head? = some ':'
      · simp [emptyHost] at reads
      cases port : readPortOf scheme afterHost with
      | error error => simp [port, emptyHost] at reads
      | ok found =>
          simp only [port, emptyHost, if_false] at reads ⊢
          by_cases emptyUser :
              host.isEmpty = true ∧ (!(writeUserinfo (userinfo.getD [])).isEmpty) = true
          · simp [emptyUser] at reads
          simp only [emptyUser, if_false, Except.ok.injEq, Prod.mk.injEq] at reads ⊢
          exact ⟨reads.1, by rw [← reads.2, List.append_assoc]⟩

/-! ### Blanks and breaks -/

theorem not_isBreak_of_not_isBlank {character : Char} (printed : isBlank character = false) :
    isBreak character = false := by
  rw [isBreak, Bool.or_eq_false_iff, Bool.or_eq_false_iff]
  refine ⟨⟨?_, ?_⟩, ?_⟩ <;> rw [decide_eq_false_iff_not] <;> rintro rfl <;>
    exact absurd printed (by decide)

theorem unbroken_append (first second : List Char) :
    unbroken (first ++ second) = unbroken first ++ unbroken second :=
  List.filter_append first second

/-- A text with no blank behind it loses at most blanks before it. -/
theorem trimmed_of_printed (printed : ∀ last ∈ written.toList.getLast?, isBlank last = false) :
    trimmed written = written.toList.dropWhile isBlank := by
  rw [trimmed]
  cases kept : (written.toList.dropWhile isBlank).reverse with
  | nil => rw [List.dropWhile_nil, ← kept, List.reverse_reverse]
  | cons last front =>
      have isLast : (written.toList.dropWhile isBlank).getLast? = some last := by
        rw [← List.head?_reverse, kept]
        rfl
      have inText : written.toList.getLast? = some last := by
        rw [← List.takeWhile_append_dropWhile (p := isBlank) (l := written.toList),
          List.getLast?_append, isLast]
        rfl
      rw [List.dropWhile_cons_of_neg (by simp [printed last inText]), ← kept,
        List.reverse_reverse]

/-! ### Web addresses -/

/-- The text is read as a scheme of the web, an authority, and what is left over behind it; and no
blank is behind the text. -/
structure IsReadAs (written scheme : String) (authority : Authority) (left : List Char) : Prop where
  web : IsWeb scheme
  printed : ∀ last ∈ written.toList.getLast?, isBlank last = false
  splits : ∃ rest, splitScheme? (unbroken (trimmed written)) = some (scheme, rest) ∧
    readAuthority scheme (rest.dropWhile (partsSegments true)) = .ok (authority, left)

/-- The text is the address of something in the web, with no blank behind it. -/
def IsWebAddress (written : String) : Prop :=
  ∃ url, parse written = .ok url ∧ IsWeb url.scheme ∧
    ∀ last ∈ written.toList.getLast?, isBlank last = false

theorem IsReadAs.parse_eq (isRead : IsReadAs written scheme authority left) :
    parse written = .ok (assemble scheme (some authority) left) := by
  obtain ⟨rest, splits, reads⟩ := isRead.splits
  rw [parse, splits]
  simp only [if_neg isRead.web.ne_file, if_pos isRead.web.isSpecial, reads]
  rfl

theorem splitScheme?_append {rest : List Char}
    (splits : splitScheme? characters = some (scheme, rest)) (following : List Char) :
    splitScheme? (characters ++ following) = some (scheme, rest ++ following) := by
  cases characters with
  | nil => cases splits
  | cons first others =>
      unfold splitScheme? at splits
      dsimp only at splits
      split at splits
      case isFalse => cases splits
      case isTrue isAlpha =>
          split at splits
          case h_2 => cases splits
          case h_1 more found =>
              have drops : (first :: others ++ following).dropWhile isSchemeCharacter =
                  ':' :: (more ++ following) := by
                rw [List.dropWhile_append, found]
                rfl
              have takes : (first :: others ++ following).takeWhile isSchemeCharacter =
                  (first :: others).takeWhile isSchemeCharacter := by
                rw [List.takeWhile_append, if_neg]
                have parts := congrArg List.length
                  (List.takeWhile_append_dropWhile (p := isSchemeCharacter) (l := first :: others))
                rw [List.length_append, found, List.length_cons] at parts
                omega
              rw [List.cons_append] at drops takes ⊢
              simp only [splitScheme?, isAlpha, if_true, drops, takes]
              cases splits
              rfl

/-- There is something behind the slashes. -/
theorem IsWeb.readAuthority_nil_ne (web : IsWeb scheme) (read : Authority × List Char) :
    readAuthority scheme [] ≠ .ok read := by
  rcases web with rfl | rfl <;> nofun

/-- A path behind a web address is left over with what was left over before. -/
theorem IsReadAs.append (isRead : IsReadAs written scheme authority left)
    (begins : path.toList.head? = some '/') (ends : path.toList.getLast? = some '/') :
    IsReadAs (written ++ path) scheme authority (left ++ unbroken path.toList) := by
  obtain ⟨rest, splits, reads⟩ := isRead.splits
  obtain ⟨inside, whole⟩ := List.head?_eq_some_iff.mp begins
  have slash : unbroken path.toList = '/' :: unbroken inside := by
    rw [whole]
    rfl
  have printed : ∀ last ∈ (written ++ path).toList.getLast?, isBlank last = false := by
    rw [String.toList_append, List.getLast?_append, ends]
    rintro last ⟨⟩
    rfl
  have trims : trimmed (written ++ path) = trimmed written ++ path.toList := by
    rw [trimmed_of_printed printed, trimmed_of_printed isRead.printed, String.toList_append, whole]
    exact (span_before isBlank rfl written.toList inside).2
  refine ⟨isRead.web, printed, rest ++ unbroken path.toList, ?_, ?_⟩
  · rw [trims, unbroken_append]
    exact splitScheme?_append splits _
  · have some_text : (rest.dropWhile (partsSegments true)).isEmpty = false := by
      rw [← Bool.not_eq_true, List.isEmpty_iff]
      intro isEmpty
      rw [isEmpty] at reads
      exact isRead.web.readAuthority_nil_ne _ reads
    rw [List.dropWhile_append, some_text, slash]
    exact readAuthority_before_slash isRead.web.isSpecial reads (unbroken inside)

theorem scheme_of_readFile (reads : readFile characters = .ok url) :
    url.scheme = "file" := by
  unfold readFile readFileHost at reads
  simp only [bind, Except.bind, pure, Except.pure] at reads
  split at reads
  · cases reads
    rfl
  · split at reads
    · cases reads
      rfl
    · split at reads
      · cases reads
        rfl
      · split at reads
        · cases reads
          rfl
        · split at reads
          · cases reads
          · split at reads <;> (cases reads; rfl)

/-- A URL has the scheme with which its text begins. -/
theorem scheme_of_parse {rest : List Char} (parsed : parse written = .ok url)
    (splits : splitScheme? (unbroken (trimmed written)) = some (scheme, rest)) :
    url.scheme = scheme := by
  unfold parse at parsed
  simp only [splits, bind, Except.bind, pure, Except.pure] at parsed
  split at parsed
  case isTrue isFile => exact (scheme_of_readFile parsed).trans isFile.symm
  case isFalse =>
      split at parsed
      case isTrue =>
          split at parsed
          · cases parsed
          · cases parsed
            rfl
      case isFalse =>
          split at parsed
          · split at parsed
            · cases parsed
            · cases parsed
              rfl
          · cases parsed
            rfl
          · cases parsed
            rfl

theorem IsWebAddress.isReadAs (web : IsWebAddress written) :
    ∃ url authority left, parse written = .ok url ∧ IsReadAs written url.scheme authority left ∧
      url.authority = (assemble url.scheme (some authority) []).authority := by
  obtain ⟨url, parsed, isWeb, printed⟩ := web
  cases splits : splitScheme? (unbroken (trimmed written)) with
  | none => simp [parse, splits] at parsed
  | some parts =>
      obtain ⟨scheme, rest⟩ := parts
      obtain rfl := scheme_of_parse parsed splits
      have given := parsed
      simp only [parse, splits, if_neg isWeb.ne_file, if_pos isWeb.isSpecial] at parsed
      cases reads : readAuthority url.scheme (rest.dropWhile (partsSegments true)) with
      | error error => simp [reads, bind, Except.bind] at parsed
      | ok read =>
          obtain ⟨authority, left⟩ := read
          simp only [reads, bind, Except.bind, pure, Except.pure] at parsed
          refine ⟨url, authority, left, given, ⟨isWeb, printed, rest, splits, reads⟩, ?_⟩
          rw [← Except.ok.inj parsed]
          rfl

/-- A path behind a web address leads to the same host and port. -/
theorem IsWebAddress.authority_append (web : IsWebAddress written)
    (begins : path.toList.head? = some '/') (ends : path.toList.getLast? = some '/') :
    ∃ url longer, parse written = .ok url ∧ parse (written ++ path) = .ok longer ∧
      longer.authority = url.authority := by
  obtain ⟨url, authority, left, parsed, isRead, same⟩ := web.isReadAs
  refine ⟨url, _, parsed, (isRead.append begins ends).parse_eq, ?_⟩
  rw [same]
  rfl

/-! ### Origins -/

/-- A web address that ends with its host and port. -/
structure Origin where
  scheme : String
  /-- What stands behind the two slashes. -/
  named : String
  /-- What that is read as. -/
  authority : Authority
  web : IsWeb scheme
  bare : ∀ character ∈ named.toList, endsAuthority true character = false ∧
    isBlank character = false
  reads : (readAuthority scheme named.toList).toOption = some (authority, [])

namespace Origin

variable {origin : Origin}

/-- The address as it is written. -/
def text (origin : Origin) : String :=
  origin.scheme ++ "://" ++ origin.named

theorem readAuthority_named (origin : Origin) :
    readAuthority origin.scheme origin.named.toList = .ok (origin.authority, []) := by
  have reads := origin.reads
  cases found : readAuthority origin.scheme origin.named.toList with
  | error error => simp [found, Except.toOption] at reads
  | ok parsed =>
      rw [found, Except.toOption, Option.some.injEq] at reads
      rw [reads]

theorem unbroken_named (origin : Origin) : unbroken origin.named.toList = origin.named.toList :=
  unbroken_eq_self fun character member =>
    not_isBreak_of_not_isBlank (origin.bare character member).2

/-- There is a host. -/
theorem named_ne_nil (origin : Origin) : origin.named.toList ≠ [] := by
  intro isEmpty
  have reads := origin.readAuthority_named
  rw [isEmpty] at reads
  exact origin.web.readAuthority_nil_ne _ reads

theorem getLast?_text (origin : Origin) :
    ∃ last ∈ origin.named.toList, origin.text.toList.getLast? = some last := by
  have isLast := List.getLast?_eq_some_getLast origin.named_ne_nil
  refine ⟨_, List.mem_of_getLast? isLast, ?_⟩
  rw [text, String.toList_append, List.getLast?_append, isLast]
  rfl

theorem isReadAs (origin : Origin) :
    IsReadAs origin.text origin.scheme origin.authority [] := by
  have printed : ∀ last ∈ origin.text.toList.getLast?, isBlank last = false := by
    obtain ⟨last, inNamed, isLast⟩ := origin.getLast?_text
    rw [isLast]
    rintro _ ⟨⟩
    exact (origin.bare last inNamed).2
  have written : origin.text.toList =
      origin.scheme.toList ++ ':' :: '/' :: '/' :: origin.named.toList := by
    simp only [text, String.toList_append, List.append_assoc]
    rfl
  have splits : splitScheme? (unbroken (trimmed origin.text)) =
      some (origin.scheme, '/' :: '/' :: unbroken origin.named.toList) := by
    rw [trimmed_of_printed printed, written]
    rcases origin.web with isHttp | isHttps
    · rw [isHttp]
      rfl
    · rw [isHttps]
      rfl
  rw [origin.unbroken_named] at splits
  refine ⟨origin.web, printed, _, splits, ?_⟩
  obtain ⟨first, others, namedIs⟩ := List.exists_cons_of_ne_nil origin.named_ne_nil
  have bare := (origin.bare first (by rw [namedIs]; exact List.mem_cons_self)).1
  have stops : partsSegments true first = false := by
    simp only [endsAuthority, Bool.or_eq_false_iff] at bare
    simp [partsSegments, bare]
  have parts : partsSegments true '/' = true := by decide
  rw [List.dropWhile_cons_of_pos parts, List.dropWhile_cons_of_pos parts, namedIs,
    List.dropWhile_cons_of_neg (by simp [stops]), ← namedIs]
  exact origin.readAuthority_named

/-- The address of a path at an origin is read as the two that it is made of. -/
theorem parse_append (origin : Origin) (begins : path.toList.head? = some '/')
    (ends : path.toList.getLast? = some '/') :
    parse (origin.text ++ path) =
      .ok (assemble origin.scheme (some origin.authority) (unbroken path.toList)) :=
  (origin.isReadAs.append begins ends).parse_eq

/-- An origin alone is a web address. -/
theorem isWebAddress (origin : Origin) : IsWebAddress origin.text :=
  ⟨_, origin.isReadAs.parse_eq, origin.web, origin.isReadAs.printed⟩

end Origin

end PeerCache.Url
