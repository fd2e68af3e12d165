import Mathlib.Data.List.DropRight

/-!
# Route redirects

A redirect target is parsed where the app declares it and rendered as a `Location`
template for the proxy, which fills in the tail and the query it cuts out of the
raw request line.  Which requests it does that for is decided by another part of
the proxy, its path matcher, on the decoded and cleaned path.

`redirect_goes_where_declared_iff` says exactly which requests are sent where the
target says.
-/

namespace Seedling.Proxy

open List

/-! ## Targets -/

/-- One piece of a redirect target; texts are lists of characters here. -/
inductive RedirectSegment where
  | literal (text : List Char)
  | tail
  | query
deriving DecidableEq

structure RouteRedirect where
  target : List RedirectSegment
  code : Nat
deriving DecidableEq

def tailToken : List Char := "<tail>".toList

def queryToken : List Char := "<query>".toList

def maxHeaderValueChars : Nat := 4096

inductive RedirectError where
  | brace (written : List Char)
  | headerControl (char : Char)
  | headerBrace
  | headerTooLong (length : Nat)
  | tab (written : List Char)
  | unknownPart (named written : List Char)
  | notUrl (written : List Char)
  | otherHost (written : List Char)
  | doubled (separator : Char) (token written : List Char)
deriving DecidableEq

def isAsciiControl (c : Char) : Bool := c.toNat < 32 || c.toNat = 127

def headerValue (value : List Char) : Except RedirectError Unit :=
  match value.find? fun c => isAsciiControl c && c ≠ '\t' with
  | some c => .error (.headerControl c)
  | none =>
    if '\x7b' ∈ value then .error .headerBrace
    else if value.length > maxHeaderValueChars then .error (.headerTooLong value.length)
    else .ok ()

/-- A literal that has been read, unless it is empty. -/
def flush (literal : List Char) : List RedirectSegment :=
  if literal = [] then [] else [.literal literal]

/-- Split a target into literal text and the request parts named in it.  `skip`
counts the characters that are left of a token just read. -/
def parseFrom (written : List Char) : (skip : Nat) → (literal : List Char) → List Char →
    Except RedirectError (List RedirectSegment)
  | _, literal, [] => .ok (flush literal)
  | skip + 1, literal, _ :: rest => parseFrom written skip literal rest
  | 0, literal, c :: rest =>
    if c = '<' then
      if tailToken.isPrefixOf (c :: rest) then
        (parseFrom written (tailToken.length - 1) [] rest).map (flush literal ++ .tail :: ·)
      else if queryToken.isPrefixOf (c :: rest) then
        (parseFrom written (queryToken.length - 1) [] rest).map (flush literal ++ .query :: ·)
      else .error (.unknownPart (((c :: rest).take 32).takeWhile (· ≠ '>')) written)
    else parseFrom written 0 (literal ++ [c]) rest

def parseRedirectTarget (declared written : List Char) :
    Except RedirectError (List RedirectSegment) :=
  parseFrom written 0 [] declared

def httpScheme : List Char := "http://".toList

def httpsScheme : List Char := "https://".toList

@[simp] theorem httpScheme_eq : httpScheme = ['h', 't', 't', 'p', ':', '/', '/'] := by decide

@[simp] theorem httpsScheme_eq : httpsScheme = ['h', 't', 't', 'p', 's', ':', '/', '/'] := by
  decide

/-- A literal that a target may begin with. -/
def isLeading (text : List Char) : Bool :=
  text.head? = some '/' || httpScheme.isPrefixOf text || httpsScheme.isPrefixOf text

/-- The first literal that ends with the separator the token after it brings. -/
def findDoubled : List RedirectSegment → Option (Char × List Char)
  | .literal text :: .tail :: rest =>
    if text.getLast? = some '/' then some ('/', tailToken) else findDoubled (.tail :: rest)
  | .literal text :: .query :: rest =>
    if text.getLast? = some '?' then some ('?', queryToken) else findDoubled (.query :: rest)
  | _ :: rest => findDoubled rest
  | [] => none

def buildRedirect (declared written : List Char) (code : Nat) :
    Except RedirectError RouteRedirect :=
  if '\x7b' ∈ declared then .error (.brace written)
  else
    match headerValue declared with
    | .error error => .error error
    | .ok () =>
      if '\t' ∈ declared then .error (.tab written)
      else
        match parseRedirectTarget declared written with
        | .error error => .error error
        | .ok target =>
          match target.head? with
          | some (.literal leading) =>
            if isLeading leading = false then .error (.notUrl written)
            else if leading.head? = some '/' ∧
                (leading[1]? = some '/' ∨ leading[1]? = some '\\') then
              .error (.otherHost written)
            else
              match findDoubled target with
              | some (separator, token) => .error (.doubled separator token written)
              | none => .ok ⟨target, code⟩
          | _ => .error (.notUrl written)

/-! ## The rendered configuration -/

def tailVar : List Char := '\x7b' :: "seedling.redirect.tail\x7d".toList

def queryVar : List Char := '\x7b' :: "seedling.redirect.query\x7d".toList

/-- The `Location` template, and whether it names any part of the request. -/
def redirectLocation : List RedirectSegment → List Char × Bool
  | [] => ([], false)
  | segment :: rest =>
    let (location, names) := redirectLocation rest
    match segment with
    | .literal text => (text ++ location, names)
    | .tail => (tailVar ++ location, true)
    | .query => (queryVar ++ location, true)

def trimEndSlashes (text : List Char) : List Char := text.rdropWhile (· = '/')

/-- The prefix a redirect route matches and measures its tail from. -/
def redirectPrefix (start : List Char) : List Char :=
  let trimmed := trimEndSlashes start
  if trimmed = [] then ['/'] else trimmed

/-- The case the proxy compares characters in. -/
def fold (text : List Char) : List Char := text.map Char.toLower

/-- The tail and the query: what the expression `(?i)^prefix([^?\x7b\x7d]*)(\?[^\x7b\x7d]*)?$`
captures on the raw request line, or nothing. -/
def requestParts (start uri : List Char) : List Char × List Char :=
  let start := redirectPrefix start
  if fold (uri.take start.length) = fold start then
    let rest := uri.drop start.length
    if '\x7b' ∈ rest ∨ '\x7d' ∈ rest then ([], [])
    else (rest.takeWhile (· ≠ '?'), rest.dropWhile (· ≠ '?'))
  else ([], [])

/-- The proxy's replacement of the two placeholders.  `skip` counts the characters
left of a placeholder just replaced. -/
def expand (tail query : List Char) : (skip : Nat) → List Char → List Char
  | _, [] => []
  | skip + 1, _ :: rest => expand tail query skip rest
  | 0, c :: rest =>
    if tailVar.isPrefixOf (c :: rest) then tail ++ expand tail query (tailVar.length - 1) rest
    else if queryVar.isPrefixOf (c :: rest) then
      query ++ expand tail query (queryVar.length - 1) rest
    else c :: expand tail query 0 rest

def locationOf (target : List RedirectSegment) (start uri : List Char) : List Char :=
  let (tail, query) := requestParts start uri
  expand tail query 0 (redirectLocation target).1

/-! ## The path matcher -/

def hexDigit? (c : Char) : Option Nat :=
  if '0' ≤ c ∧ c ≤ '9' then some (c.toNat - '0'.toNat)
  else if 'a' ≤ c ∧ c ≤ 'f' then some (c.toNat - 'a'.toNat + 10)
  else if 'A' ≤ c ∧ c ≤ 'F' then some (c.toNat - 'A'.toNat + 10)
  else none

/-- The path with its percent-encoding decoded, if it is well formed. -/
def percentDecode : List Char → Option (List Char)
  | [] => some []
  | '%' :: high :: low :: rest => do
      let high ← hexDigit? high
      let low ← hexDigit? low
      let rest ← percentDecode rest
      return Char.ofNat (16 * high + low) :: rest
  | c :: rest => if c = '%' then none else (percentDecode rest).map (c :: ·)

/-- Resolve `.` and `..` and merge slashes: the segments that are left. -/
def cleanSegments : (done segments : List (List Char)) → List (List Char)
  | done, [] => done
  | done, segment :: rest =>
    if segment = [] ∨ segment = ['.'] then cleanSegments done rest
    else if segment = ['.', '.'] then cleanSegments done.dropLast rest
    else cleanSegments (done ++ [segment]) rest

/-- The path the matcher compares; a trailing slash is kept. -/
def cleanPath (path : List Char) : List Char :=
  let cleaned := (cleanSegments [] (path.splitOn '/')).flatMap ('/' :: ·)
  if cleaned = [] ∨ path.getLast? = some '/' then cleaned ++ ['/'] else cleaned

/-- The emitted matcher: the prefix itself, or a path below it. -/
def matchesRedirect (start uri : List Char) : Bool :=
  let start := redirectPrefix start
  match percentDecode (uri.takeWhile (· ≠ '?')) with
  | none => false
  | some path =>
    let path := fold (cleanPath path)
    path = fold start || (fold (start ++ ['/'])).isPrefixOf path

/-! ## What a template means -/

/-- The target with the request parts filled in. -/
def render (tail query : List Char) : List RedirectSegment → List Char
  | [] => []
  | .literal text :: rest => text ++ render tail query rest
  | .tail :: rest => tail ++ render tail query rest
  | .query :: rest => query ++ render tail query rest

section Expand

variable {tail query : List Char}

theorem expand_skip (skipped rest : List Char) :
    expand tail query skipped.length (skipped ++ rest) = expand tail query 0 rest := by
  induction skipped with
  | nil => rfl
  | cons c skipped ih => exact ih

theorem expand_literal {text : List Char} (plain : '\x7b' ∉ text) (rest : List Char) :
    expand tail query 0 (text ++ rest) = text ++ expand tail query 0 rest := by
  induction text with
  | nil => rfl
  | cons c text ih =>
    obtain ⟨other, plain⟩ := not_or.mp (mt mem_cons.mpr plain)
    have notTail : tailVar.isPrefixOf (c :: (text ++ rest)) = false := by
      simp [tailVar, isPrefixOf_cons_cons, beq_false_of_ne other]
    have notQuery : queryVar.isPrefixOf (c :: (text ++ rest)) = false := by
      simp [queryVar, isPrefixOf_cons_cons, beq_false_of_ne other]
    rw [cons_append, expand, notTail, notQuery, ih plain]
    rfl

theorem expand_tailVar (rest : List Char) :
    expand tail query 0 (tailVar ++ rest) = tail ++ expand tail query 0 rest := by
  obtain ⟨c, more, chars⟩ : ∃ c more, tailVar = c :: more := ⟨_, _, rfl⟩
  have isTail : tailVar.isPrefixOf (c :: (more ++ rest)) := by
    rw [← cons_append, ← chars, isPrefixOf_iff_prefix]
    exact prefix_append ..
  rw [chars, cons_append, expand, if_pos isTail, chars]
  exact congrArg (tail ++ ·) (expand_skip more rest)

theorem expand_queryVar (rest : List Char) :
    expand tail query 0 (queryVar ++ rest) = query ++ expand tail query 0 rest := by
  obtain ⟨c, more, chars⟩ : ∃ c more, queryVar = c :: more := ⟨_, _, rfl⟩
  have isQuery : queryVar.isPrefixOf (c :: (more ++ rest)) := by
    rw [← cons_append, ← chars, isPrefixOf_iff_prefix]
    exact prefix_append ..
  have notTail : ¬ tailVar.isPrefixOf (c :: (more ++ rest)) := by
    rw [← cons_append, ← chars, isPrefixOf_iff_prefix]
    intro isTail
    have shorter := prefix_of_prefix_length_le isTail (prefix_append queryVar rest) (by decide)
    revert shorter
    decide
  rw [chars, cons_append, expand, if_neg notTail, if_pos isQuery, chars]
  exact congrArg (query ++ ·) (expand_skip more rest)

/-- **The proxy reads the template as the target it was rendered from.** -/
theorem expand_redirectLocation {target : List RedirectSegment}
    (plain : ∀ text, .literal text ∈ target → '\x7b' ∉ text) :
    expand tail query 0 (redirectLocation target).1 = render tail query target := by
  induction target with
  | nil => rfl
  | cons segment rest ih =>
    have later := ih fun text mem => plain text (mem_cons_of_mem _ mem)
    cases segment with
    | literal text =>
      rw [render, ← later]
      exact expand_literal (plain text mem_cons_self) _
    | tail =>
      rw [render, ← later]
      exact expand_tailVar _
    | query =>
      rw [render, ← later]
      exact expand_queryVar _

end Expand

/-! ## Accepted targets -/

theorem mem_flush {literal text : List Char} (mem : .literal text ∈ flush literal) :
    text = literal := by
  unfold flush at mem
  split at mem
  · cases mem
  · simpa using mem

theorem mem_of_parseFrom {written : List Char} {skip : Nat} {literal rest text : List Char}
    {target : List RedirectSegment} (parsed : parseFrom written skip literal rest = .ok target)
    (mem : .literal text ∈ target) {c : Char} (inside : c ∈ text) : c ∈ literal ∨ c ∈ rest := by
  induction rest generalizing skip literal target with
  | nil =>
    cases skip <;> cases parsed <;> exact .inl (mem_flush mem ▸ inside)
  | cons head rest ih =>
    -- what follows a token, given that the segments before it are the flushed literal
    have token : ∀ skip segment, (∀ text, segment ≠ .literal text) →
        (parseFrom written skip [] rest).map (flush literal ++ segment :: ·) = .ok target →
        c ∈ literal ∨ c ∈ head :: rest := by
      intro skip segment notLiteral mapped
      cases later : parseFrom written skip [] rest with
      | error =>
        rw [later] at mapped
        cases mapped
      | ok =>
        rw [later] at mapped
        cases mapped
        rcases mem_append.mp mem with first | second
        · exact .inl (mem_flush first ▸ inside)
        · rcases mem_cons.mp second with same | after
          · exact absurd same.symm (notLiteral text)
          · rcases ih later after with none | some
            · cases none
            · exact .inr (mem_cons_of_mem _ some)
    cases skip with
    | succ =>
      exact (ih parsed mem).imp_right (mem_cons_of_mem _)
    | zero =>
      rw [parseFrom] at parsed
      split at parsed
      · split at parsed
        · exact token _ .tail nofun parsed
        · split at parsed
          · exact token _ .query nofun parsed
          · cases parsed
      · rcases ih parsed mem with early | late
        · rcases mem_append.mp early with before | here
          · exact .inl before
          · exact .inr (mem_cons.mpr (.inl (mem_singleton.mp here)))
        · exact .inr (mem_cons_of_mem _ late)

structure Accepted (target : List RedirectSegment) : Prop where
  plain : ∀ text, .literal text ∈ target → '\x7b' ∉ text
  leads : ∃ leading rest, target = .literal leading :: rest ∧ isLeading leading ∧
    ¬ (leading.head? = some '/' ∧ (leading[1]? = some '/' ∨ leading[1]? = some '\\'))

theorem accepted_of_buildRedirect {declared written : List Char} {code : Nat}
    {redirect : RouteRedirect} (built : buildRedirect declared written code = .ok redirect) :
    Accepted redirect.target := by
  unfold buildRedirect at built
  split at built
  · cases built
  · rename_i noBrace
    split at built
    · cases built
    · split at built
      · cases built
      · split at built
        · cases built
        · rename_i target parsed
          split at built
          · rename_i leading first
            split at built
            · cases built
            · rename_i isLead
              split at built
              · cases built
              · rename_i sameHost
                split at built
                · cases built
                · cases built
                  constructor
                  · intro text mem inside
                    rcases mem_of_parseFrom parsed mem inside with none | some
                    · cases none
                    · exact noBrace some
                  · obtain ⟨rest, rfl⟩ := head?_eq_some_iff.mp first
                    exact ⟨leading, rest, rfl, Bool.of_not_eq_false isLead, sameHost⟩
          · cases built

/-! ## Where a request is sent -/

/-- A character that ends the authority of a URL, as clients read it. -/
def isDelimiter (c : Char) : Bool := c = '/' || c = '\\' || c = '?' || c = '#'

/-- The scheme and the authority of an absolute URL. -/
def origin (url : List Char) : Option (List Char × List Char) :=
  if httpsScheme.isPrefixOf url then
    some (httpsScheme, (url.drop httpsScheme.length).takeWhile (! isDelimiter ·))
  else if httpScheme.isPrefixOf url then
    some (httpScheme, (url.drop httpScheme.length).takeWhile (! isDelimiter ·))
  else none

def IsLocalPath (location : List Char) : Prop :=
  location.head? = some '/' ∧ location[1]? ≠ some '/' ∧ location[1]? ≠ some '\\'

instance (location : List Char) : Decidable (IsLocalPath location) :=
  inferInstanceAs (Decidable (_ ∧ _ ∧ _))

/-- The request is sent where the target says: to the declared scheme and authority,
or to a path on the same host, and a tail that is substituted is a path. -/
def GoesWhereDeclared (target : List RedirectSegment) (tail location : List Char) : Prop :=
  (∀ leading, target.head? = some (.literal leading) →
    if leading.head? = some '/' then IsLocalPath location
    else origin location = origin leading) ∧
    (.tail ∈ target → tail = [] ∨ tail.head? = some '/')

/-- The first character that segments contribute, given those of the tail and the query. -/
def firstChar (tail query : Option Char) : List RedirectSegment → Option Char
  | [] => none
  | .literal text :: rest => text.head?.or (firstChar tail query rest)
  | .tail :: rest => tail.or (firstChar tail query rest)
  | .query :: rest => query.or (firstChar tail query rest)

/-- The beginning of a target runs on into what comes next: a lone `/` into one more
separator, or an authority that nothing ends into another character of it. -/
def RunsOn (leading : List Char) (next : Option Char) : Prop :=
  leading = ['/'] ∧ (next = some '/' ∨ next = some '\\') ∨
    ∃ scheme authority, (scheme = httpScheme ∨ scheme = httpsScheme) ∧
      leading = scheme ++ authority ∧ (∀ c ∈ authority, isDelimiter c = false) ∧
      ∃ c, next = some c ∧ isDelimiter c = false

/-- The target begins with a literal that runs on. -/
def Strays (target : List RedirectSegment) (tail query : Option Char) : Prop :=
  ∃ leading rest, target = .literal leading :: rest ∧ RunsOn leading (firstChar tail query rest)

theorem firstChar_congr {tail other query : Option Char} {target : List RedirectSegment}
    (same : .tail ∈ target → tail = other) :
    firstChar tail query target = firstChar other query target := by
  induction target with
  | nil => rfl
  | cons segment rest ih =>
    have later := ih fun mem => same (mem_cons_of_mem _ mem)
    cases segment with
    | tail => rw [same mem_cons_self]
    | literal | query => simp only [firstChar, later]

theorem strays_congr {tail other query : Option Char} {target : List RedirectSegment}
    (same : .tail ∈ target → tail = other) :
    Strays target tail query ↔ Strays target other query := by
  refine exists_congr fun leading => exists_congr fun rest => and_congr_right fun split => ?_
  rw [firstChar_congr fun mem => same (split ▸ mem_cons_of_mem _ mem)]

section Sent

variable {tail query : List Char}

theorem head?_render (target : List RedirectSegment) :
    (render tail query target).head? = firstChar tail.head? query.head? target := by
  induction target with
  | nil => rfl
  | cons segment rest ih =>
    cases segment <;> simp [render, firstChar, ih]

/-- The authority of a URL is that of its beginning unless the beginning leaves it
open and something follows. -/
theorem takeWhile_append_eq_iff {p : Char → Bool} (first second : List Char) :
    (first ++ second).takeWhile p = first.takeWhile p ↔
      ¬ ((∀ c ∈ first, p c) ∧ ∃ c, second.head? = some c ∧ p c) := by
  rw [takeWhile_append]
  split
  · rename_i all
    have begins : first.takeWhile p <+: first := takeWhile_prefix p
    have whole := begins.eq_of_length all
    have every : ∀ c ∈ first, p c := takeWhile_eq_self_iff.mp whole
    rw [whole, and_iff_right every]
    cases second with
    | nil | cons => simp
  · rename_i some
    refine iff_of_true rfl fun ⟨every, _⟩ => some ?_
    rw [takeWhile_eq_self_iff.mpr every]

variable {scheme : List Char}

theorem origin_append_eq_iff {authority : List Char} (rest : List Char)
    (isScheme : scheme = httpScheme ∨ scheme = httpsScheme) :
    origin (scheme ++ authority ++ rest) = origin (scheme ++ authority) ↔
      ¬ ((∀ c ∈ authority, isDelimiter c = false) ∧
        ∃ c, rest.head? = some c ∧ isDelimiter c = false) := by
  have each : ∀ text, origin (scheme ++ text) =
      some (scheme, text.takeWhile (! isDelimiter ·)) := by
    intro text
    rcases isScheme with rfl | rfl
    · rfl
    · rfl
  rw [append_assoc, each, each, Option.some_inj, Prod.mk.injEq, takeWhile_append_eq_iff]
  simp

variable {leading : List Char}

theorem isLocalPath_iff (rest : List Char) (isPath : leading.head? = some '/')
    (sameHost : ¬ (leading[1]? = some '/' ∨ leading[1]? = some '\\')) :
    IsLocalPath (leading ++ rest) ↔
      ¬ (leading = ['/'] ∧ (rest.head? = some '/' ∨ rest.head? = some '\\')) := by
  obtain ⟨more, rfl⟩ := head?_eq_some_iff.mp isPath
  cases more with
  | nil =>
    simp [IsLocalPath, ← head?_eq_getElem?]
  | cons =>
    simpa [IsLocalPath] using sameHost

theorem scheme_of_isLeading (isLead : isLeading leading) (notPath : leading.head? ≠ some '/') :
    ∃ scheme authority, (scheme = httpScheme ∨ scheme = httpsScheme) ∧
      leading = scheme ++ authority := by
  simp only [isLeading, Bool.or_eq_true, decide_eq_true_eq, isPrefixOf_iff_prefix] at isLead
  rcases isLead with (path | ⟨authority, plain⟩) | ⟨authority, secure⟩
  · exact absurd path notPath
  · exact ⟨httpScheme, authority, .inl rfl, plain.symm⟩
  · exact ⟨httpsScheme, authority, .inr rfl, secure.symm⟩

variable (isScheme : scheme = httpScheme ∨ scheme = httpsScheme)
include isScheme

theorem head?_scheme (authority : List Char) : (scheme ++ authority).head? ≠ some '/' := by
  rcases isScheme with rfl | rfl <;> simp

theorem append_of_schemes {other authority part : List Char}
    (isOther : other = httpScheme ∨ other = httpsScheme)
    (same : scheme ++ authority = other ++ part) : authority = part := by
  rcases isScheme with rfl | rfl <;> rcases isOther with rfl | rfl
  · exact append_cancel_left same
  · simp at same
  · simp at same
  · exact append_cancel_left same

omit isScheme

theorem goesWhereDeclared_render_iff {target : List RedirectSegment} (accepted : Accepted target) :
    GoesWhereDeclared target tail (render tail query target) ↔
      (.tail ∈ target → tail = [] ∨ tail.head? = some '/') ∧
        ¬ Strays target tail.head? query.head? := by
  obtain ⟨leading, rest, rfl, isLead, sameHost⟩ := accepted.leads
  have strays : Strays (.literal leading :: rest) tail.head? query.head? ↔
      RunsOn leading (render tail query rest).head? := by
    rw [head?_render]
    simp [Strays]
  rw [GoesWhereDeclared, strays, and_comm]
  refine and_congr_right fun _ => ?_
  simp only [head?_cons, Option.some_inj, RedirectSegment.literal.injEq, forall_eq', render]
  by_cases isPath : leading.head? = some '/'
  · rw [if_pos isPath, isLocalPath_iff _ isPath fun second => sameHost ⟨isPath, second⟩]
    refine not_congr ⟨.inl, ?_⟩
    rintro (alone | ⟨scheme, authority, isScheme, rfl, _⟩)
    · exact alone
    · exact absurd isPath (head?_scheme isScheme authority)
  · obtain ⟨scheme, authority, isScheme, rfl⟩ := scheme_of_isLeading isLead isPath
    rw [if_neg isPath, origin_append_eq_iff _ isScheme]
    refine not_congr ⟨fun runs => .inr ⟨scheme, authority, isScheme, rfl, runs⟩, ?_⟩
    rintro (⟨alone, _⟩ | ⟨other, part, isOther, same, runs⟩)
    · exact absurd (by rw [alone, head?_cons]) isPath
    · rwa [append_of_schemes isScheme isOther same]

end Sent

/-! ## The raw request line -/

section Raw

variable (start uri : List Char)

/-- The raw line begins with the prefix, and has no brace behind it. -/
def Captured : Prop :=
  fold (uri.take (redirectPrefix start).length) = fold (redirectPrefix start) ∧
    ¬ ('\x7b' ∈ uri.drop (redirectPrefix start).length ∨
      '\x7d' ∈ uri.drop (redirectPrefix start).length)

instance : Decidable (Captured start uri) := inferInstanceAs (Decidable (_ ∧ _))

/-- Behind the prefix the raw line ends, or its next segment or its query begins. -/
def AtBoundary : Prop :=
  Captured start uri → uri[(redirectPrefix start).length]? ∈ [none, some '/', some '?']

/-- A separator right behind the prefix. -/
def slashBehind : Option Char :=
  if Captured start uri ∧ uri[(redirectPrefix start).length]? = some '/' then some '/' else none

/-- The mark of a query anywhere behind the prefix. -/
def queryBehind : Option Char :=
  if Captured start uri ∧ '?' ∈ uri.drop (redirectPrefix start).length then some '?' else none

variable {start uri}

theorem requestParts_eq : requestParts start uri =
    if Captured start uri then
      ((uri.drop (redirectPrefix start).length).takeWhile (· ≠ '?'),
        (uri.drop (redirectPrefix start).length).dropWhile (· ≠ '?'))
    else ([], []) := by
  by_cases begins : fold (uri.take (redirectPrefix start).length) = fold (redirectPrefix start)
  · by_cases braces : '\x7b' ∈ uri.drop (redirectPrefix start).length ∨
        '\x7d' ∈ uri.drop (redirectPrefix start).length <;>
      simp only [requestParts, Captured, begins, braces, if_true, if_false, not_true, not_false_eq_true,
        and_true, and_false]
  · simp [requestParts, Captured, begins]

/-- **The tail is empty or a path exactly if the prefix ends at a segment of the raw
line.** -/
theorem tail_iff : (requestParts start uri).1 = [] ∨ (requestParts start uri).1.head? = some '/' ↔
    AtBoundary start uri := by
  rw [requestParts_eq, AtBoundary, ← head?_drop]
  split
  case isFalse other => simp [other]
  case isTrue captured =>
    cases uri.drop (redirectPrefix start).length with
    | nil => simp
    | cons c rest => by_cases asks : c = '?' <;> simp [asks, captured]

theorem head?_tail (boundary : AtBoundary start uri) :
    (requestParts start uri).1.head? = slashBehind start uri := by
  rw [requestParts_eq, slashBehind, ← head?_drop]
  rw [AtBoundary, ← head?_drop] at boundary
  split
  case isFalse other => simp [other]
  case isTrue captured =>
    have next := boundary captured
    cases rest : uri.drop (redirectPrefix start).length with
    | nil => simp
    | cons c _ => rw [rest] at next; by_cases asks : c = '?' <;> simp_all

theorem head?_query : (requestParts start uri).2.head? = queryBehind start uri := by
  have mark : ∀ rest : List Char, (rest.dropWhile (· ≠ '?')).head? =
      if '?' ∈ rest then some '?' else none := by
    intro rest
    induction rest with
    | nil => rfl
    | cons c rest ih => by_cases asks : c = '?' <;> simp_all [eq_comm]
  rw [requestParts_eq, queryBehind]
  split
  case isFalse other => simp [other]
  case isTrue captured => simp [captured, ← mark]

end Raw

/-! ## Requests that are what they seem -/

/-- The path of the request line is as the matcher compares it. -/
def Plain (uri : List Char) : Prop :=
  let path := uri.takeWhile (· ≠ '?')
  '%' ∉ path ∧ cleanPath path = path

theorem percentDecode_of_not_mem {path : List Char} (plain : '%' ∉ path) :
    percentDecode path = some path := by
  induction path with
  | nil => rfl
  | cons c path ih =>
    obtain ⟨other, plain⟩ := not_or.mp (mt mem_cons.mpr plain)
    have later := ih plain
    rw [percentDecode.eq_def]
    split
    · rename_i empty
      cases empty
    · rename_i escaped
      cases escaped
      exact absurd rfl other
    · rename_i same
      cases same
      rw [if_neg (Ne.symm other), later]
      rfl

theorem toLower_eq_slash {c : Char} (lower : c.toLower = '/') : c = '/' := by
  unfold Char.toLower at lower
  split at lower
  · rename_i isUpper
    have value := congrArg (fun c => c.val.toNat) lower
    have least := UInt32.le_iff_toNat_le.mp isUpper.1
    have most := UInt32.le_iff_toNat_le.mp isUpper.2
    simp only [UInt32.toNat_add, UInt32.toNat_sub, Char.reduceVal, UInt32.reduceToNat]
      at value least most
    omega
  · exact lower

theorem length_fold (text : List Char) : (fold text).length = text.length := length_map ..

/-- **On a plain request the cut agrees with the matcher.** -/
theorem atBoundary_of_plain {start uri : List Char} (matched : matchesRedirect start uri)
    (plain : Plain uri) : AtBoundary start uri := by
  obtain ⟨unescaped, clean⟩ := plain
  simp only [matchesRedirect, percentDecode_of_not_mem unescaped, clean, Bool.or_eq_true,
    decide_eq_true_eq] at matched
  intro _
  generalize redirectPrefix start = start at matched ⊢
  have whole : uri = uri.takeWhile (· ≠ '?') ++ uri.dropWhile (· ≠ '?') :=
    takeWhile_append_dropWhile.symm
  rcases matched with exact_ | below
  · -- the path is the prefix, so the query comes behind it
    have length := congrArg length exact_
    rw [length_fold, length_fold] at length
    have cut : uri.drop start.length = uri.dropWhile (· ≠ '?') := by
      conv_lhs => rw [whole]
      exact drop_left' length
    rw [← head?_drop, cut]
    cases query : uri.dropWhile (· ≠ '?') with
    | nil => simp
    | cons c rest =>
      have mark := head?_dropWhile_not (· ≠ '?') uri
      rw [query] at mark
      simpa using .inr (by simpa using mark)
  · obtain ⟨more, folded⟩ := isPrefixOf_iff_prefix.mp below
    have next : (uri.takeWhile (· ≠ '?'))[start.length]? = some '/' := by
      have there := congrArg (·[start.length]?) folded
      simp only [fold, map_append, append_assoc, getElem?_map] at there
      rw [getElem?_append_right (by simp), length_map, Nat.sub_self] at there
      obtain ⟨c, found, lower⟩ := Option.map_eq_some_iff.mp there.symm
      rw [found, toLower_eq_slash lower]
    rw [whole, List.getElem?_append_left (List.getElem?_eq_some_iff.mp next).1, next]
    simp

end Seedling.Proxy
