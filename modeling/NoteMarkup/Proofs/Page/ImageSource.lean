import Mathlib.Data.List.DropRight
import NoteMarkup.Page.ImageSource
import NoteMarkup.Proofs.Text.Letter
import NoteMarkup.Proofs.Token.Spelling

/-!
# References that are moved

- `hostRest?_eq_some_iff` says what the shape of an absolute reference is;
- `ReadsAbsolute` is what is relied on of a reader of URLs, whichever it is;
- `isLocal_proxiedBy` says that a reference is not absolute once it is moved;
- `proxiedBy_exact` fixes for every reference what it becomes.
-/

namespace NoteMarkup

/-! ## The shape of absolute references -/

def IsWebScheme (scheme : List Char) : Prop :=
  scheme.map foldSchemeChar = "http".toList ∨ scheme.map foldSchemeChar = "https".toList

/-- The text is a scheme, `://`, the name of a host without a `/`, and from a `/` on the rest, which
    is one line. -/
structure HostSplit (cs scheme host rest : List Char) : Prop where
  whole : cs = scheme ++ ':' :: '/' :: '/' :: (host ++ rest)
  scheme : IsWebScheme scheme
  nonempty : host ≠ []
  host : '/' ∉ host
  slash : rest.head? = some '/'
  line : '\n' ∉ rest

/-- Only letters are put together in a scheme. -/
theorem eq_of_foldSchemeChar_eq {c d : Char} (h : foldSchemeChar c = d) (other : d.isLower = false) :
    c = d := by
  unfold foldSchemeChar at h
  split at h
  · subst h
    cases other
  · cases upper : c.isUpper with
    | false => rwa [Text.toLower_of_isUpper_eq_false upper] at h
    | true =>
      have lower := Text.isLower_toLower (c := c) (by rw [Text.isAlpha_eq, upper, Bool.true_or])
      rw [h, other] at lower
      cases lower

theorem dropScheme?_eq_some_iff {scheme cs rest : List Char} :
    dropScheme? scheme cs = some rest ↔
      ∃ front, front.map foldSchemeChar = scheme ∧ cs = front ++ rest := by
  induction scheme generalizing cs with
  | nil => simp [dropScheme?]
  | cons s scheme ih =>
    cases cs with
    | nil =>
      refine ⟨fun h => (by cases h), fun ⟨front, spelled, whole⟩ => ?_⟩
      obtain ⟨rfl, -⟩ := List.append_eq_nil_iff.mp whole.symm
      cases spelled
    | cons c cs =>
      rw [dropScheme?]
      constructor
      · intro h
        split at h
        · rename_i same
          obtain ⟨front, spelled, rfl⟩ := ih.mp h
          exact ⟨c :: front, by rw [List.map_cons, spelled, beq_iff_eq.mp same], rfl⟩
        · cases h
      · rintro ⟨front, spelled, whole⟩
        obtain ⟨first, front, rfl, rfl, rest⟩ := List.map_eq_cons_iff.mp spelled
        cases whole
        rw [if_pos (beq_self_eq_true _)]
        exact ih.mpr ⟨front, rest, rfl⟩

/-- A scheme with the marks behind it, which have no other case. -/
theorem dropScheme?_append_eq_some_iff {name cs rest : List Char} :
    dropScheme? (name ++ [':', '/', '/']) cs = some rest ↔
      ∃ scheme, scheme.map foldSchemeChar = name ∧ cs = scheme ++ ':' :: '/' :: '/' :: rest := by
  rw [dropScheme?_eq_some_iff]
  constructor
  · rintro ⟨front, spelled, rfl⟩
    obtain ⟨scheme, marks, rfl, rfl, same⟩ := List.map_eq_append_iff.mp spelled
    obtain ⟨colon, marks, rfl, hcolon, same⟩ := List.map_eq_cons_iff.mp same
    obtain ⟨slash, marks, rfl, hslash, same⟩ := List.map_eq_cons_iff.mp same
    obtain ⟨last, marks, rfl, hlast, same⟩ := List.map_eq_cons_iff.mp same
    obtain rfl := List.map_eq_nil_iff.mp same
    obtain rfl := eq_of_foldSchemeChar_eq hcolon rfl
    obtain rfl := eq_of_foldSchemeChar_eq hslash rfl
    obtain rfl := eq_of_foldSchemeChar_eq hlast rfl
    exact ⟨scheme, rfl, by simp⟩
  · rintro ⟨scheme, rfl, rfl⟩
    exact ⟨scheme ++ [':', '/', '/'], by rw [List.map_append]; rfl, by simp⟩

theorem afterScheme?_eq_some_iff {cs rest : List Char} :
    afterScheme? cs = some rest ↔
      ∃ scheme, IsWebScheme scheme ∧ cs = scheme ++ ':' :: '/' :: '/' :: rest := by
  have secure : "https://".toList = "https".toList ++ [':', '/', '/'] := rfl
  have plain : "http://".toList = "http".toList ++ [':', '/', '/'] := rfl
  rw [afterScheme?, Option.or_eq_some_iff, secure, plain, dropScheme?_append_eq_some_iff,
    dropScheme?_append_eq_some_iff]
  constructor
  · rintro (⟨scheme, spelled, whole⟩ | ⟨-, scheme, spelled, whole⟩)
    · exact ⟨scheme, .inr spelled, whole⟩
    · exact ⟨scheme, .inl spelled, whole⟩
  · rintro ⟨scheme, spelled | spelled, whole⟩
    · refine .inr ⟨?_, scheme, spelled, whole⟩
      refine Option.eq_none_iff_forall_ne_some.mpr fun other found => ?_
      obtain ⟨longer, long, same⟩ := dropScheme?_append_eq_some_iff.mp found
      have folded := congrArg (List.map foldSchemeChar) (whole.symm.trans same)
      rw [List.map_append, List.map_append, spelled, long] at folded
      cases folded
    · exact .inl ⟨scheme, spelled, whole⟩

/-- The rest behind the host is cut off exactly where a text has the shape of an absolute
    reference. -/
theorem hostRest?_eq_some_iff {cs rest : List Char} :
    hostRest? cs = some rest ↔ ∃ scheme host, HostSplit cs scheme host rest := by
  rw [hostRest?, Option.bind_eq_some_iff]
  constructor
  · rintro ⟨after, found, cut⟩
    obtain ⟨scheme, web, rfl⟩ := afterScheme?_eq_some_iff.mp found
    simp only at cut
    split at cut
    · rename_i shape
      obtain ⟨nonempty, reached, line⟩ := shape
      cases cut
      obtain ⟨stop, rest, behind⟩ := List.exists_cons_of_ne_nil reached
      obtain ⟨host, rfl, plain, isStop⟩ := dropWhile_eq_cons behind
      obtain rfl : stop = '/' := by simpa using isStop
      rw [takeWhile_append_cons plain isStop] at nonempty
      rw [behind] at line ⊢
      refine ⟨scheme, host, rfl, web, nonempty, fun slash => ?_, rfl, line⟩
      simpa using plain '/' slash
    · cases cut
  · rintro ⟨scheme, host, rfl, web, nonempty, noSlash, slash, line⟩
    obtain ⟨path, rfl⟩ := List.head?_eq_some_iff.mp slash
    refine ⟨host ++ '/' :: path, afterScheme?_eq_some_iff.mpr ⟨scheme, web, rfl⟩, ?_⟩
    simp only [dropWhile_append_cons (bne_of_not_mem noSlash) (show ('/' != '/') = false from rfl),
      takeWhile_append_cons (bne_of_not_mem noSlash) (show ('/' != '/') = false from rfl)]
    exact if_pos ⟨nonempty, List.cons_ne_nil _ _, line⟩

theorem IsWebScheme.colon {scheme : List Char} (web : IsWebScheme scheme) : ':' ∉ scheme := by
  intro member
  have folded : ':' ∈ scheme.map foldSchemeChar := List.mem_map.mpr ⟨':', member, rfl⟩
  obtain spelled | spelled := web <;> rw [spelled] at folded <;> revert folded <;> decide

/-- A text is cut at the first stop in one way only. -/
theorem eq_of_append_cons_eq {front other more others : List Char} {stop : Char}
    (inside : stop ∉ front) (otherInside : stop ∉ other)
    (same : front ++ stop :: more = other ++ stop :: others) : front = other ∧ more = others := by
  have shown : (stop != stop) = false := bne_self_eq_false stop
  have taken := congrArg (List.takeWhile (· != stop)) same
  rw [takeWhile_append_cons (bne_of_not_mem inside) shown,
    takeWhile_append_cons (bne_of_not_mem otherInside) shown] at taken
  rw [taken] at same
  exact ⟨taken, (List.cons.inj (List.append_cancel_left same)).2⟩

/-- A text has the shape of an absolute reference in one way only. -/
theorem HostSplit.unique {cs scheme host rest scheme' host' rest' : List Char}
    (parts : HostSplit cs scheme host rest) (others : HostSplit cs scheme' host' rest') :
    scheme' = scheme ∧ host' = host ∧ rest' = rest := by
  obtain ⟨whole, web, -, noSlash, slash, -⟩ := parts
  obtain ⟨whole', web', -, noSlash', slash', -⟩ := others
  obtain ⟨path, rfl⟩ := List.head?_eq_some_iff.mp slash
  obtain ⟨path', rfl⟩ := List.head?_eq_some_iff.mp slash'
  obtain ⟨rfl, behind⟩ := eq_of_append_cons_eq web'.colon web.colon (whole'.symm.trans whole)
  obtain ⟨rfl, rfl⟩ := eq_of_append_cons_eq noSlash' noSlash
    (List.cons.inj (List.cons.inj behind).2).2
  exact ⟨rfl, rfl, rfl⟩

theorem hostRest?_of_slash (cs : List Char) : hostRest? ('/' :: cs) = none := rfl

theorem Url.afterWebScheme?_of_slash (cs : List Char) : afterWebScheme? ('/' :: cs) = none := by
  unfold afterWebScheme?
  rw [List.takeWhile_cons_of_pos rfl, List.map_cons]
  split
  · rfl
  · exact if_neg (by rintro (h | h) <;> cases h)

/-- A `/` is not dropped from the front of a reference. -/
theorem Url.exists_cleaned_of_slash (cs : List Char) : ∃ more, cleaned ('/' :: cs) = '/' :: more := by
  unfold cleaned
  rw [List.dropWhile_cons_of_neg (by decide)]
  simp only [List.reverse_cons, List.dropWhile_append]
  split
  · rw [List.dropWhile_cons_of_neg (by decide)]
    exact ⟨[], rfl⟩
  · rw [List.reverse_append]
    exact ⟨_, rfl⟩

theorem WebUrl.parse?_eq_none_of_slash {reference : String} {cs : List Char}
    (h : reference.toList = '/' :: cs) : parse? reference = none := by
  obtain ⟨more, cleaned⟩ := Url.exists_cleaned_of_slash cs
  rw [parse?, h, cleaned, Url.afterWebScheme?_of_slash]
  rfl

/-! ## Moving references -/

theorem WebUrl.exists_path_of_parse? {reference : String} {url : WebUrl}
    (h : parse? reference = some url) : ∃ rest, url.path.toList = '/' :: rest := by
  unfold parse? at h
  obtain ⟨cs, -, h⟩ := Option.bind_eq_some_iff.mp h
  simp only at h
  split at h
  · cases h
    obtain ⟨rest, path⟩ := Url.normalPath_eq_cons
      (((cs.dropWhile Url.isSlash).dropWhile (!Url.endsAuthority ·)).takeWhile
        fun c => c != '?' && c != '#')
    exact ⟨rest, by rw [← path, String.toList_ofList]⟩
  · cases h

/-- What is relied on of a reader of URLs of the web: a reference that is empty or starts with a `/`
    is no URL of its own, and the path of a URL starts with a `/`. -/
structure ReadsAbsolute (parse? : String → Option WebUrl) : Prop where
  empty : parse? "" = none
  slash : ∀ reference cs, reference.toList = '/' :: cs → parse? reference = none
  path : ∀ reference url, parse? reference = some url → ∃ rest, url.path.toList = '/' :: rest

theorem WebUrl.readsAbsolute_parse? : ReadsAbsolute parse? :=
  ⟨rfl, fun _ _ => parse?_eq_none_of_slash, fun _ _ => exists_path_of_parse?⟩

theorem proxied_congr [UrlReader] {base other : String} (h : trimSlashes base = trimSlashes other)
    (reference : String) : proxied base reference = proxied other reference := by
  rw [proxied, proxied, proxiedBy, proxiedBy, h]

section

variable {parse? : String → Option WebUrl} {base reference : String}

theorem proxiedBy_of_some (reads : ReadsAbsolute parse?) {url : WebUrl}
    (parsed : parse? reference = some url) :
    proxiedBy parse? base reference = trimSlashes base ++ url.path ++ url.queryText := by
  have nonempty : reference ≠ "" := by
    rintro rfl
    rw [reads.empty] at parsed
    cases parsed
  rw [proxiedBy, if_neg (by simpa using nonempty), parsed]

theorem proxiedBy_of_hostSplit {scheme host rest : List Char} (parsed : parse? reference = none)
    (parts : HostSplit reference.toList scheme host rest) :
    proxiedBy parse? base reference = trimSlashes base ++ String.ofList rest := by
  have shape := hostRest?_eq_some_iff.mpr ⟨scheme, host, parts⟩
  have nonempty : reference ≠ "" := by
    rintro rfl
    cases shape
  rw [proxiedBy, if_neg (by simpa using nonempty), parsed]
  simp only [shape]

theorem proxiedBy_of_none (parsed : parse? reference = none)
    (shape : hostRest? reference.toList = none) : proxiedBy parse? base reference = reference := by
  rw [proxiedBy]
  split
  · rename_i empty
    exact (String.isEmpty_iff.mp empty).symm
  · simp only [parsed, shape]

/-- A reference that is moved stands below the path, any other is no URL of the web, has not the
    shape of one, and stays as it is. -/
theorem proxiedBy_eq_or (reads : ReadsAbsolute parse?) (base reference : String) :
    (∃ rest, (proxiedBy parse? base reference).toList = (trimSlashes base).toList ++ '/' :: rest) ∨
      proxiedBy parse? base reference = reference ∧ parse? reference = none ∧
        hostRest? reference.toList = none := by
  cases parsed : parse? reference with
  | some url =>
    obtain ⟨rest, path⟩ := reads.path reference url parsed
    rw [proxiedBy_of_some reads parsed]
    exact .inl ⟨rest ++ url.queryText.toList, by simp [path]⟩
  | none =>
    cases shape : hostRest? reference.toList with
    | some rest =>
      obtain ⟨scheme, host, parts⟩ := hostRest?_eq_some_iff.mp shape
      obtain ⟨path, rfl⟩ := List.head?_eq_some_iff.mp parts.slash
      rw [proxiedBy_of_hostSplit parsed parts]
      exact .inl ⟨path, by simp⟩
    | none => exact .inr ⟨proxiedBy_of_none parsed shape, rfl, rfl⟩

end

theorem toList_trimSlashes (base : String) :
    (trimSlashes base).toList = base.toList.rdropWhile (· == '/') :=
  String.toList_ofList

theorem isPrefix_trimSlashes (base : String) : (trimSlashes base).toList <+: base.toList := by
  rw [toList_trimSlashes]
  exact List.rdropWhile_prefix _ _

/-- What stands below a path of the page's own host starts with a `/`. -/
theorem exists_of_below {base : String} (own : ∀ first ∈ base.toList.head?, first = '/')
    {source rest : List Char} (below : source = (trimSlashes base).toList ++ '/' :: rest) :
    ∃ cs, source = '/' :: cs := by
  obtain ⟨slashes, whole⟩ := isPrefix_trimSlashes base
  cases trimmed : (trimSlashes base).toList with
  | nil => exact ⟨rest, by rw [below, trimmed, List.nil_append]⟩
  | cons first path =>
    rw [trimmed] at whole
    obtain rfl := own first (by rw [← whole]; rfl)
    exact ⟨_, by rw [below, trimmed, List.cons_append]⟩

/-- The reference is no URL of the web and has not the shape of one either. -/
structure IsLocal (parse? : String → Option WebUrl) (reference : String) : Prop where
  parse : parse? reference = none
  shape : ∀ scheme host rest, ¬ HostSplit reference.toList scheme host rest

section

variable {parse? : String → Option WebUrl} {base reference : String}

theorem isLocal_of_hostRest? (parsed : parse? reference = none)
    (shape : hostRest? reference.toList = none) : IsLocal parse? reference := by
  refine ⟨parsed, fun scheme host rest parts => ?_⟩
  rw [hostRest?_eq_some_iff.mpr ⟨scheme, host, parts⟩] at shape
  cases shape

theorem isLocal_of_slash (reads : ReadsAbsolute parse?) {cs : List Char}
    (slash : reference.toList = '/' :: cs) : IsLocal parse? reference :=
  isLocal_of_hostRest? (reads.slash reference cs slash) (slash ▸ hostRest?_of_slash cs)

/-- Below a path of the page's own host no reference is absolute. -/
theorem isLocal_proxiedBy (reads : ReadsAbsolute parse?)
    (own : ∀ first ∈ base.toList.head?, first = '/') (reference : String) :
    IsLocal parse? (proxiedBy parse? base reference) := by
  obtain ⟨rest, below⟩ | ⟨same, parsed, shape⟩ := proxiedBy_eq_or reads base reference
  · obtain ⟨cs, slash⟩ := exists_of_below own below
    exact isLocal_of_slash reads slash
  · rw [same]
    exact isLocal_of_hostRest? parsed shape

end

theorem exists_slashes (base : String) :
    ∃ slashes : String, base = trimSlashes base ++ slashes ∧ ∀ c ∈ slashes.toList, c = '/' := by
  refine ⟨String.ofList (base.toList.rtakeWhile (· == '/')), ?_, fun c member => ?_⟩
  · apply String.ext
    rw [String.toList_append, toList_trimSlashes, String.toList_ofList,
      List.rdropWhile_append_rtakeWhile]
  · rw [String.toList_ofList] at member
    simpa using List.mem_rtakeWhile_imp member

theorem getLast?_trimSlashes (base : String) : (trimSlashes base).toList.getLast? ≠ some '/' := by
  intro last
  rw [toList_trimSlashes] at last
  obtain ⟨front, shape⟩ := List.getLast?_eq_some_iff.mp last
  have nonempty : base.toList.rdropWhile (· == '/') ≠ [] := by simp [shape]
  exact List.rdropWhile_last_not _ _ nonempty (by simp [shape])

theorem WebUrl.queryText_eq (url : WebUrl) :
    url.queryText = if url.query?.getD "" = "" then "" else "?" ++ url.query?.getD "" := by
  rw [WebUrl.queryText]
  cases url.query? with
  | none => rfl
  | some query => simp only [Option.getD_some, String.isEmpty_iff]

theorem proxiedBy_of_slash {parse? : String → Option WebUrl} (reads : ReadsAbsolute parse?)
    (base : String) {reference : String} {cs : List Char} (slash : reference.toList = '/' :: cs) :
    proxiedBy parse? base reference = reference :=
  proxiedBy_of_none (reads.slash reference cs slash) (slash ▸ hostRest?_of_slash cs)

/-- What a reference becomes is fixed in three cases.  A URL of the web becomes its path and its
    query, below the base without the slashes at its end.  Another text that has the shape of an
    absolute reference has it in one way only, and becomes what follows its host.  All other
    references stay.  On the page's own host no reference is moved twice. -/
theorem proxiedBy_exact {parse? : String → Option WebUrl} (reads : ReadsAbsolute parse?)
    (base : String) :
    ∃ path slashes : String, base = path ++ slashes ∧ (∀ c ∈ slashes.toList, c = '/') ∧
      path.toList.getLast? ≠ some '/' ∧
      (∀ reference url, parse? reference = some url →
        proxiedBy parse? base reference = path ++ url.path ++
          if url.query?.getD "" = "" then "" else "?" ++ url.query?.getD "") ∧
      (∀ reference scheme host rest, parse? reference = none →
        HostSplit reference.toList scheme host rest →
        proxiedBy parse? base reference = path ++ String.ofList rest ∧
        ∀ scheme' host' rest', HostSplit reference.toList scheme' host' rest' →
          scheme' = scheme ∧ host' = host ∧ rest' = rest) ∧
      (∀ reference, parse? reference = none →
        (∀ scheme host rest, ¬ HostSplit reference.toList scheme host rest) →
        proxiedBy parse? base reference = reference) ∧
      ((∀ first ∈ base.toList.head?, first = '/') → ∀ reference,
        proxiedBy parse? base (proxiedBy parse? base reference) =
          proxiedBy parse? base reference) := by
  obtain ⟨slashes, whole, allSlashes⟩ := exists_slashes base
  refine ⟨trimSlashes base, slashes, whole, allSlashes, getLast?_trimSlashes base,
    fun reference url parsed => ?_, fun reference scheme host rest parsed parts => ?_,
    fun reference parsed noParts => ?_, fun own reference => ?_⟩
  · rw [proxiedBy_of_some reads parsed, WebUrl.queryText_eq]
  · exact ⟨proxiedBy_of_hostSplit parsed parts, fun _ _ _ => parts.unique⟩
  · refine proxiedBy_of_none parsed (Option.eq_none_iff_forall_ne_some.mpr fun rest found => ?_)
    obtain ⟨scheme, host, parts⟩ := hostRest?_eq_some_iff.mp found
    exact noParts scheme host rest parts
  · obtain ⟨rest, below⟩ | ⟨same, -⟩ := proxiedBy_eq_or reads base reference
    · obtain ⟨cs, slash⟩ := exists_of_below own below
      exact proxiedBy_of_slash reads base slash
    · rw [same, same]

/-- A URL with an empty query, and a reference that only has the shape of a URL. -/
theorem proxiedBy_exact_own :
    ∃ path slashes : String, "/i//" = path ++ slashes ∧ (∀ c ∈ slashes.toList, c = '/') ∧
      path.toList.getLast? ≠ some '/' ∧
      proxiedBy WebUrl.parse? "/i//" "http://[::1]?" = path ++ "/" ++ "" ∧
      proxiedBy WebUrl.parse? "/i//" "http\u017f://h/x" = path ++ "/x" ∧
      ∀ reference, proxiedBy WebUrl.parse? "/i//" (proxiedBy WebUrl.parse? "/i//" reference) =
        proxiedBy WebUrl.parse? "/i//" reference := by
  obtain ⟨path, slashes, whole, all, last, moved, shaped, -, again⟩ :=
    proxiedBy_exact WebUrl.readsAbsolute_parse? "/i//"
  have parsed : WebUrl.parse? "http://[::1]?" = some ⟨"/", some ""⟩ := by decide +kernel
  have parts : HostSplit "http\u017f://h/x".toList "http\u017f".toList ['h'] "/x".toList :=
    ⟨by decide, .inr (by decide), by decide, by decide, by decide, by decide⟩
  exact ⟨path, slashes, whole, all, last, moved _ _ parsed, (shaped _ _ _ _ (by decide) parts).1,
    again fun _ h => (Option.some.inj h).symm⟩

end NoteMarkup
