import Outbound.Client
import Outbound.Proofs.Url.Parts

/-! # Paths joined to a base address

A path is put behind the base address with one slash between them, and the text is read once more as
a target. The base address may bring a query or a fragment, and then the path ends up in that.

* `Url.Written` tells the parts of a base address as they are written.
* `ClientPlan.exists_of_request` is the text of a joined path, and `Url.exists_of_readOff` finds the
  scheme and the authority of that text within the base address.
* `Uri.exists_joined` finds the path, and `ClientPlan.request_of_base` says so of the requests of a
  client; by `ClientPlan.request_of_fragment`, the path is lost behind a fragment. -/

namespace Outbound

/-! ## Base addresses -/

/-- The slashes at the end of a base address are taken off. -/
theorem ClientPlan.baseUrl_of_build {plan : ClientPlan} {now : Instant} {config : ClientConfig}
    {base : String} (given : plan.baseUrl = some base) (built : plan.build now = .ok config) :
    config.baseUrl = some (String.ofList (base.toList.rdropWhile (· == '/'))) := by
  have checks : checked checkedBase plan.baseUrl = .ok config.baseUrl := by
    simp only [build, bind, Except.bind] at built
    repeat' split at built
    all_goals first | cases built; assumption | cases built
  rw [given] at checks
  simp only [checked, checkedBase, bind, Except.bind] at checks
  split at checks
  · cases checks
  next text known =>
    split at known
    · cases known
      exact (Except.ok.inj checks).symm
    · cases known

namespace Client

/-- A path without its first slash. -/
def unslashed : List Char → List Char
  | '/' :: others => others
  | others => others

/-- The rest of a path is part of it. -/
theorem unslashed_subset (path : List Char) : unslashed path ⊆ path := by
  unfold unslashed
  split
  · exact List.subset_cons_self ..
  · exact List.Subset.refl _

/-- A joined path stands behind the base and a slash, without its own first slash. -/
theorem toList_join (base path : String) :
    (join (some base) path).toList = base.toList ++ '/' :: unslashed path.toList := by
  unfold join
  cases known : path.toList with
  | nil => simp [known, unslashed]
  | cons first others =>
      by_cases slash : first = '/'
      · simp [known, slash, unslashed]
      · simp [known, slash, unslashed]

/-- A client makes a request for every target that its base and a path are joined to. -/
theorem request_of_parse {client : Client} {method : Method} {path : String} {uri : Uri}
    (read : Uri.parse (join client.baseUrl path) = .ok uri) :
    client.request method path = .ok { method, uri } := by
  rw [request, read]

end Client

namespace Url

/-! ## Trimmed texts -/

variable {text : List Char}

/-- What a trimmed text ends with is a trimmed text. -/
theorem rdropWhile_of_trimmed {front back slashes : List Char}
    (trimmed : text.rdropWhile (· == '/') = front ++ back)
    (allSlashes : ∀ character ∈ slashes, character = '/') :
    (back ++ slashes).rdropWhile (· == '/') = back := by
  have nothing : slashes.rdropWhile (· == '/') = [] :=
    List.rdropWhile_eq_nil_iff.mpr fun character member => by simp [allSlashes character member]
  rcases List.eq_nil_or_concat back with rfl | ⟨start, last, rfl⟩
  · exact nothing
  · have notEmpty : text.rdropWhile (· == '/') ≠ [] := by simp [trimmed]
    have lastOf : (text.rdropWhile (· == '/')).getLast notEmpty = last := by simp [trimmed]
    have kept : (last == '/') = false := by
      have ends := List.rdropWhile_last_not _ _ notEmpty
      rw [lastOf] at ends
      exact Bool.eq_false_iff.mpr ends
    have ends := rdropWhile_append_cons (· == '/') kept start slashes
    rw [nothing] at ends
    simpa using ends

/-- The scheme of a text that is joined behind a trimmed one stands within that, or is all of it. -/
theorem exists_behind_scheme {trimmed scheme others rest : List Char}
    (lastKept : ∀ front, trimmed ≠ front ++ ['/'])
    (inScheme : ∀ character ∈ scheme, isSchemeChar character = true)
    (split : trimmed ++ '/' :: rest = scheme ++ "://".toList ++ others) :
    trimmed = scheme ++ [':'] ∨
      ∃ body, trimmed = scheme ++ "://".toList ++ body ∧ others = body ++ '/' :: rest := by
  rcases List.append_eq_append_iff.mp split with ⟨missing, whole, ends⟩ | ⟨body, inside, behind⟩
  · -- The text ends within the scheme or its signs, and the slash behind it stands there, too.
    have joined : ∃ tail, missing = '/' :: tail := by
      cases missing with
      | nil =>
          have closed : trimmed = (scheme ++ ":/".toList) ++ ['/'] := by simpa using whole.symm
          exact absurd closed (lastKept _)
      | cons first tail => exact ⟨tail, by simpa using (List.cons.inj ends).1.symm⟩
    obtain ⟨tail, rfl⟩ := joined
    rcases List.append_eq_append_iff.mp whole with ⟨signs, same, colon⟩ | ⟨letters, same, colon⟩
    · have signsOf : ':' :: '/' :: '/' :: [] = signs ++ '/' :: tail := colon
      match signs with
      | [] => simp at signsOf
      | [colon] =>
          obtain rfl : ':' = colon := (List.cons.inj signsOf).1
          exact .inl same
      | [colon, slash] =>
          obtain ⟨rfl, rest⟩ : ':' = colon ∧ _ := List.cons.inj signsOf
          obtain rfl : '/' = slash := (List.cons.inj rest).1
          have closed : trimmed = (scheme ++ [':']) ++ ['/'] := by simpa using same
          exact absurd closed (lastKept _)
      | _ :: _ :: _ :: _ => simp at signsOf
    · -- No slash stands within a scheme.
      cases letters with
      | nil => simp at colon
      | cons first letters =>
          obtain rfl : '/' = first := (List.cons.inj colon).1
          exact absurd (inScheme '/' (by simp [same])) (by decide)
  · exact .inr ⟨body, inside, behind⟩

/-- An authority with a slash behind the text it is read from lies within that text. -/
theorem exists_behind_authority {authority body rest behind : List Char}
    (inside : ∀ character ∈ authority, Uri.endsAuthority character = false)
    (split : authority ++ rest = body ++ '/' :: behind) :
    ∃ others, body = authority ++ others ∧ rest = others ++ '/' :: behind := by
  rcases List.append_eq_append_iff.mp split with ⟨others, whole, ends⟩ | ⟨more, longer, ends⟩
  · exact ⟨others, whole, ends⟩
  · cases more with
    | nil => exact ⟨[], by simpa using longer.symm, by simpa using ends.symm⟩
    | cons first more =>
        obtain rfl : '/' = first := (List.cons.inj ends).1
        exact absurd (inside '/' (by simp [longer])) (by decide)

/-- The parts of a locator of the web as they are written: its scheme, its authority, its path, and
a tail that starts with a question mark or a number sign. -/
structure Written (url : Url) (text scheme authority path tail : List Char) : Prop where
  /-- The parts follow each other. -/
  split : text = scheme ++ "://".toList ++ (authority ++ (path ++ tail))
  /-- The scheme is written in any case. -/
  scheme : scheme.map Char.toLower = url.scheme.toList
  /-- There is an authority. -/
  someAuthority : authority ≠ []
  /-- The authority does not end early. -/
  inside : ∀ character ∈ authority, Uri.endsAuthority character = false
  /-- A path starts with a slash. -/
  starts : ∀ character ∈ path.head?, character = '/'
  /-- The path does not end early. -/
  stays : ∀ character ∈ path, Uri.staysInPath character = true
  /-- The path does not end late. -/
  ends : ∀ character ∈ tail.head?, Uri.staysInPath character = false

end Url

/-! ## Joined targets -/

/-- A character of a path neither starts a query nor a fragment. -/
theorem Uri.staysInPath_of_isPathChar {character : Char} (inPath : isPathChar character = true) :
    staysInPath character = true := by
  have differs (sign : Char) (marks : isPathChar sign = false) : (character != sign) = true :=
    bne_iff_ne.mpr (ne_of_apply_ne isPathChar (by rw [inPath, marks]; decide))
  simp [staysInPath, differs '?' (by decide), differs '#' (by decide)]

/-- The target a base address and a path are joined to. The path of the base address ends without
slashes, and the other one follows behind a slash. If the base address has a tail, all of that
happens within the tail, and the path of the base address stays as it is. -/
structure Uri.Joined (uri : Uri) (written tail path : List Char) : Prop where
  /-- Without a tail the path is joined to the path. -/
  plain : tail = [] → uri.path = String.ofList
    (written.rdropWhile (· == '/') ++ '/' :: Client.unslashed path) ∧ uri.query = none
  /-- With a tail the path is joined to the tail. -/
  tailed : tail ≠ [] → uri.path = (if written = [] then "/" else String.ofList written) ∧
    uri.query = Uri.queryAt (tail.rdropWhile (· == '/') ++ '/' :: Client.unslashed path)

namespace Url

variable {base : String} {url : Url} {uri : Uri} {scheme authority rest behind : List Char}

/-- A target that is read off a locator of the web, trimmed, with a slash and more behind it, has
its scheme and its authority from the locator. -/
theorem exists_of_readOff (read : parse base = .ok url)
    (web : url.scheme = "http" ∨ url.scheme = "https")
    (off : uri.ReadOff (base.toList.rdropWhile (· == '/') ++ '/' :: behind) scheme authority rest) :
    ∃ others, base.toList.rdropWhile (· == '/') = scheme ++ "://".toList ++ authority ++ others ∧
      rest = others ++ '/' :: behind ∧ scheme.map Char.toLower = url.scheme.toList := by
  let slashes := base.toList.rtakeWhile (· == '/')
  have whole : base.toList = base.toList.rdropWhile (· == '/') ++ slashes :=
    (List.rdropWhile_append_rtakeWhile ..).symm
  have lastKept (front : List Char) : base.toList.rdropWhile (· == '/') ≠ front ++ ['/'] := by
    intro ends
    have notEmpty : base.toList.rdropWhile (· == '/') ≠ [] := by simp [ends]
    have kept := List.rdropWhile_last_not _ _ notEmpty
    simp [ends] at kept
  rcases exists_behind_scheme lastKept off.inScheme off.split with bare | ⟨body, split, follows⟩
  · -- Such a locator would have no host.
    rw [bare, List.append_assoc, List.singleton_append] at whole
    refine absurd ?_ (scheme_of_parse read web whole off.inScheme).2
    intro character member
    simpa using List.mem_rtakeWhile_imp member
  · obtain ⟨others, inside, starts⟩ := exists_behind_authority off.inside follows
    rw [split] at whole
    refine ⟨others, by rw [split, inside, List.append_assoc, List.append_assoc, List.append_assoc],
      starts, ?_⟩
    have colon : base.toList = scheme ++ ':' :: ("//".toList ++ body ++ slashes) := by
      simpa using whole
    exact (scheme_of_parse read web colon off.inScheme).1

/-- A locator of the web that is trimmed does not read as a path. -/
theorem trimmed_ne_of_parse (read : parse base = .ok url) (behind others : List Char) :
    base.toList.rdropWhile (· == '/') ++ '/' :: behind ≠ '/' :: others := by
  intro starts
  have whole : base.toList.rdropWhile (· == '/') ++ base.toList.rtakeWhile (· == '/')
      = base.toList := List.rdropWhile_append_rtakeWhile ..
  cases trimmed : base.toList.rdropWhile (· == '/') with
  | nil =>
      -- Only slashes are written, or nothing at all.
      cases written : base.toList with
      | nil =>
          obtain rfl : base = "" := String.toList_injective written
          cases read
      | cons first more =>
          have slash := List.rdropWhile_eq_nil_iff.mp trimmed first (by simp [written])
          rw [beq_iff_eq] at slash
          exact head_ne_of_parse read more (slash ▸ written)
  | cons first more =>
      rw [trimmed] at starts whole
      obtain rfl : first = '/' := (List.cons.inj starts).1
      exact head_ne_of_parse read _ whole.symm

end Url

/-- A path that is written behind an authority starts with a slash. -/
theorem Uri.eq_slash_of_mem_head {others slashes behind written tail : List Char}
    (allSlashes : ∀ character ∈ slashes, character = '/')
    (ends : ∀ character ∈ (others ++ '/' :: behind).head?, endsAuthority character = true)
    (parts : others ++ slashes = written ++ tail)
    (stays : ∀ character ∈ written, staysInPath character = true) :
    ∀ character ∈ written.head?, character = '/' := by
  intro character first
  have starts : character ∈ (others ++ slashes).head? := by
    rw [parts, List.head?_append, Option.mem_def.mp first]
    rfl
  cases others with
  | nil => exact allSlashes character (List.mem_of_mem_head? starts)
  | cons start others =>
      obtain rfl : start = character := by simpa using starts
      have inPath := stays start (List.mem_of_mem_head? first)
      have endsThere := ends start (by simp)
      simp only [staysInPath, Bool.and_eq_true, bne_iff_ne, ne_eq] at inPath
      simpa [endsAuthority, inPath.1, inPath.2] using endsThere

/-- The path of a target that is read off behind the slash of a base address, if the base address
has `others` behind its authority, and slashes at its end. -/
theorem Uri.exists_joined {uri : Uri} {text front others slashes path : List Char}
    (trimmed : text.rdropWhile (· == '/') = front ++ others)
    (allSlashes : ∀ character ∈ slashes, character = '/')
    (inPath : ∀ character ∈ path, isPathChar character = true)
    (absolute : uri.scheme.isSome = true)
    (read : splitPath (others ++ '/' :: Client.unslashed path)
      = .ok (uri.writtenPath, uri.query)) :
    ∃ written tail, others ++ slashes = written ++ tail ∧
      (∀ character ∈ written, staysInPath character = true) ∧
      (∀ character ∈ tail.head?, staysInPath character = false) ∧
      uri.Joined written tail path := by
  let written := others.takeWhile staysInPath
  have stays : ∀ character ∈ written, staysInPath character = true :=
    fun character member => List.mem_takeWhile_imp member
  have whole : written ++ others.dropWhile staysInPath = others :=
    List.takeWhile_append_dropWhile
  cases marked : others.dropWhile staysInPath with
  | nil =>
      -- Everything behind the authority is path, the slashes and the other path included.
      rw [marked, List.append_nil] at whole
      rw [whole] at stays
      have slashesStay : ∀ character ∈ slashes, staysInPath character = true :=
        fun character member => by
          rw [allSlashes character member]
          rfl
      have pathStays : ∀ character ∈ '/' :: Client.unslashed path, staysInPath character = true :=
        List.forall_mem_cons.mpr ⟨rfl, fun character member =>
          staysInPath_of_isPathChar (inPath character (Client.unslashed_subset path member))⟩
      have allStays := List.forall_mem_append.mpr ⟨stays, pathStays⟩
      rw [← List.append_nil (others ++ _)] at read
      obtain ⟨samePath, noQuery⟩ := splitPath_append allStays (by simp) read
      refine ⟨others ++ slashes, [], by simp, List.forall_mem_append.mpr ⟨stays, slashesStay⟩,
        by simp, ?_, fun marked => absurd rfl marked⟩
      intro _
      refine ⟨?_, noQuery⟩
      rw [Url.rdropWhile_of_trimmed trimmed allSlashes]
      simp [Uri.path, samePath]
  | cons mark more =>
      -- The path ends within the base address, and what is joined stands behind that.
      have ends : staysInPath mark = false := by
        have stops := List.head?_dropWhile_not staysInPath others
        rw [marked] at stops
        simpa using stops
      rw [marked] at whole
      rw [← whole, List.append_assoc] at read
      obtain ⟨samePath, sameQuery⟩ := splitPath_append stays (by simp [ends]) read
      refine ⟨written, mark :: more ++ slashes, ?_, stays, by simp [ends], by simp, ?_⟩
      · rw [← List.append_assoc, whole]
      intro _
      rw [← whole, ← List.append_assoc] at trimmed
      rw [Url.rdropWhile_of_trimmed trimmed allSlashes]
      refine ⟨?_, sameQuery⟩
      simp [Uri.path, samePath, absolute]

namespace ClientPlan

variable {plan : ClientPlan} {now : Instant} {config : ClientConfig} {base : String} {url : Url}
  {path : String} {inner : Transport} {extra : List Middleware} {method : Method}
  {request : Request}

/-- The request of a client is for the trimmed base address, a slash, and the path. -/
theorem exists_of_request (given : plan.baseUrl = some base) (built : plan.build now = .ok config)
    (asked : (Client.ofConfig config inner extra).request method path = .ok request) :
    ∃ text, Uri.parse text = .ok request.uri ∧
      text.toList = base.toList.rdropWhile (· == '/') ++ '/' :: Client.unslashed path.toList := by
  refine ⟨Client.join config.baseUrl path, ?_, ?_⟩
  · unfold Client.request at asked
    split at asked
    next uri read =>
      obtain rfl := Except.ok.inj asked
      exact read
    · cases asked
  · rw [baseUrl_of_build given built, Client.toList_join, String.toList_ofList]

/-- A request for a path of a base address of the web has the scheme and the authority that are
written there. If nothing but a path is written behind those, the target is that path without the
slashes at its end, one slash, and the path without its first slash. Otherwise the target has the
path of the base address, and the other one ends up in the query or the fragment. -/
theorem request_of_base (given : plan.baseUrl = some base) (built : plan.build now = .ok config)
    (read : Url.parse base = .ok url) (web : url.scheme = "http" ∨ url.scheme = "https")
    (inPath : path.toList.all Uri.isPathChar = true)
    (asked : (Client.ofConfig config inner extra).request method path = .ok request) :
    ∃ scheme authority written tail, url.Written base.toList scheme authority written tail ∧
      request.uri.scheme = some url.scheme ∧
      request.uri.authority = some (String.ofList authority) ∧
      request.uri.Joined written tail path.toList := by
  -- The text that is read is the trimmed address, a slash, and the path. It has a scheme.
  obtain ⟨text, parsed, joined⟩ := exists_of_request given built asked
  have slash : '/' ∈ text.toList := by simp [joined]
  have notPath (others : List Char) : text.toList ≠ '/' :: others :=
    joined ▸ Url.trimmed_ne_of_parse read _ others
  obtain ⟨scheme, authority, rest, off⟩ := Uri.exists_of_parse parsed notPath slash
  rw [joined] at off
  -- Its scheme and authority are those of the address, and what is left tells the path.
  obtain ⟨others, trimmed, rfl, sameScheme⟩ := Url.exists_of_readOff read web off
  have named : request.uri.scheme = some url.scheme := off.named _ web sameScheme
  have allSlashes : ∀ character ∈ base.toList.rtakeWhile (· == '/'), character = '/' :=
    fun character member => by simpa using List.mem_rtakeWhile_imp member
  obtain ⟨written, tail, parts, stays, ends, target⟩ := Uri.exists_joined trimmed allSlashes
    (List.all_eq_true.mp inPath) (by simp [named]) off.path
  refine ⟨scheme, authority, written, tail, ?_, named, off.authority, target⟩
  refine ⟨?_, sameScheme, off.someAuthority, off.inside, ?_, stays, ends⟩
  · rw [← parts, ← List.append_assoc, ← List.append_assoc, ← trimmed,
      List.rdropWhile_append_rtakeWhile]
  · exact Uri.eq_slash_of_mem_head allSlashes off.ends parts stays

/-- A base address that ends in a slash, and a path that starts with one, are joined by one. -/
theorem request_of_base_two_slashes :
    let plan : ClientPlan := { baseUrl := some "https://api.test/v1/" }
    let config : ClientConfig :=
      { baseUrl := some "https://api.test/v1", maxRetries := 3, initialWait := .ofSeconds 1
        limiter := none, selector := none, sink := .silent, sleeper := .timer, credential := none
        connection := {} }
    let url : Url := ⟨"https", some "api.test".toList, none⟩
    let request : Request :=
      { method := .get, uri := ⟨some "https", "api.test", "/v1/sites", none⟩ }
    plan.build .start = .ok config ∧ Url.parse "https://api.test/v1/" = .ok url ∧
      "/sites".toList.all Uri.isPathChar = true ∧
      (Client.ofConfig config .base []).request .get "/sites" = .ok request ∧
      ∃ scheme authority written tail,
        url.Written "https://api.test/v1/".toList scheme authority written tail ∧
          request.uri.authority = some (String.ofList authority) ∧
          request.uri.Joined written tail "/sites".toList := by
  intro plan config url request
  have built : plan.build .start = .ok config := rfl
  have read : Url.parse "https://api.test/v1/" = .ok url := by decide +kernel
  have inPath : "/sites".toList.all Uri.isPathChar = true := by decide
  have asked : (Client.ofConfig config .base []).request .get "/sites" = .ok request :=
    Client.request_of_parse (by decide +kernel)
  obtain ⟨scheme, authority, written, tail, parts, _, sameAuthority, joined⟩ :=
    request_of_base rfl built read (.inr rfl) inPath asked
  exact ⟨built, read, inPath, asked, scheme, authority, written, tail, parts, sameAuthority, joined⟩

/-- The fragment of a base address takes the path away, so not every path is joined to the path of
the base address. -/
theorem request_of_fragment :
    ¬ ∀ (plan : ClientPlan) (now : Instant) (config : ClientConfig) (base : String) (url : Url)
        (path : String) (inner : Transport) (extra : List Middleware) (method : Method)
        (request : Request),
        plan.baseUrl = some base → plan.build now = .ok config → Url.parse base = .ok url →
        (url.scheme = "http" ∨ url.scheme = "https") → path.toList.all Uri.isPathChar = true →
        (Client.ofConfig config inner extra).request method path = .ok request →
        ∃ scheme authority written tail, url.Written base.toList scheme authority written tail ∧
          request.uri.scheme = some url.scheme ∧
          request.uri.authority = some (String.ofList authority) ∧
          request.uri.path = String.ofList
            (written.rdropWhile (· == '/') ++ '/' :: Client.unslashed path.toList) := by
  intro all
  let plan : ClientPlan := { baseUrl := some "https://api.test/v1#top" }
  let config : ClientConfig :=
    { baseUrl := some "https://api.test/v1#top", maxRetries := 3, initialWait := .ofSeconds 1
      limiter := none, selector := none, sink := .silent, sleeper := .timer, credential := none
      connection := {} }
  let request : Request := { method := .get, uri := ⟨some "https", "api.test", "/v1", none⟩ }
  have asked : (Client.ofConfig config .base []).request .get "/sites" = .ok request :=
    Client.request_of_parse (by decide +kernel)
  obtain ⟨_, _, written, _, _, _, _, joined⟩ :=
    all plan .start config _ ⟨"https", some "api.test".toList, none⟩ "/sites" .base [] .get request
      rfl rfl (by decide +kernel) (.inr rfl) (by decide) asked
  -- The path of the request is shorter than the one that was given.
  have texts : "/v1".toList = written.rdropWhile (· == '/') ++ "/sites".toList :=
    (congrArg String.toList joined).trans String.toList_ofList
  have lengths := congrArg List.length texts
  rw [List.length_append] at lengths
  change 3 = _ + 6 at lengths
  omega

end ClientPlan

end Outbound
