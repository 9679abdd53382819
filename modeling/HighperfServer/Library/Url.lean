import HighperfServer.Library.Text

namespace HighperfServer.Library

/-- The components of a URL with an authority. -/
structure UrlParts where
  scheme : List Char
  authority : List Char
  path : List Char
  query : Option (List Char)
  fragment : Option (List Char)
  deriving DecidableEq, Repr

/-- The characters that end an authority. -/
def endsAuthority (char : Char) : Bool := char = '/' ∨ char = '?' ∨ char = '#'

/-- The text after the first separator, if there is one. -/
def afterFirst (separator : Char) (text : List Char) : Option (List Char) :=
  (splitOnce separator text).map Prod.snd

/-- The generic syntax splits a URL at its first colon, slash, question mark and hash. -/
def splitUrl (url : List Char) : Option UrlParts :=
  match splitOnce ':' url with
  | some (scheme, '/' :: '/' :: rest) =>
      let tail := rest.dropWhile fun char => !endsAuthority char
      let hierarchical := tail.takeWhile (· ≠ '#')
      some {
        scheme
        authority := rest.takeWhile fun char => !endsAuthority char
        path := hierarchical.takeWhile (· ≠ '?')
        query := afterFirst '?' hierarchical
        fragment := afterFirst '#' tail
      }
  | _ => none

/-- A query is appended after a question mark. -/
def withQuery (path : List Char) : Option (List Char) → List Char
  | some query => path ++ '?' :: query
  | none => path

/-- The path and the query of a URL read back from its tail. -/
theorem tail_parts {path : List Char} {query : Option (List Char)}
    (pathClean : '?' ∉ path ∧ '#' ∉ path) (queryClean : ∀ text ∈ query, '#' ∉ text) :
    (withQuery path query).takeWhile (· ≠ '#') = withQuery path query ∧
      (withQuery path query).takeWhile (· ≠ '?') = path ∧
      afterFirst '?' (withQuery path query) = query ∧
      afterFirst '#' (withQuery path query) = none := by
  have noHash : '#' ∉ withQuery path query := by
    cases query with
    | none => exact pathClean.2
    | some text =>
        simp only [withQuery, List.mem_append, List.mem_cons, not_or]
        exact ⟨pathClean.2, by decide, queryClean text rfl⟩
  refine ⟨takeWhile_ne_of_not_mem noHash, ?_, ?_, ?_⟩
  · cases query with
    | none => exact takeWhile_ne_of_not_mem pathClean.1
    | some text => exact takeWhile_ne_append_cons pathClean.1 text
  · cases query with
    | none => rw [withQuery, afterFirst, splitOnce_of_not_mem pathClean.1, Option.map_none]
    | some text => rw [withQuery, afterFirst, splitOnce_append_cons pathClean.1, Option.map_some]
  · rw [afterFirst, splitOnce_of_not_mem noHash, Option.map_none]

/-- The authority runs up to its first delimiter. -/
theorem keeps_authority {authority : List Char}
    (clean : ∀ char ∈ authority, endsAuthority char = false) :
    ∀ char ∈ authority, (!endsAuthority char) = true := by
  intro char member
  rw [clean char member]
  rfl

/-- A URL assembled from clean parts splits into them when its path starts with a slash or is
empty. -/
theorem splitUrl_assembled {scheme authority path : List Char} {query : Option (List Char)}
    (schemeClean : ':' ∉ scheme) (authorityClean : ∀ char ∈ authority, endsAuthority char = false)
    (pathClean : '?' ∉ path ∧ '#' ∉ path) (queryClean : ∀ text ∈ query, '#' ∉ text)
    (rooted : path = [] ∨ path.head? = some '/') :
    splitUrl (scheme ++ ':' :: '/' :: '/' :: (authority ++ withQuery path query)) =
      some ⟨scheme, authority, path, query, none⟩ := by
  have keeps := keeps_authority authorityClean
  have stops : (withQuery path query).takeWhile (fun char => !endsAuthority char) = [] ∧
      (withQuery path query).dropWhile (fun char => !endsAuthority char) = withQuery path query := by
    rcases rooted with empty | slash
    · subst empty
      cases query <;> simp [withQuery, endsAuthority]
    · cases path with
      | nil => exact absurd slash (by simp)
      | cons head path =>
          rw [List.head?_cons, Option.some.injEq] at slash
          subst slash
          cases query <;> simp [withQuery, endsAuthority]
  obtain ⟨whole, pathPart, queryPart, fragmentPart⟩ := tail_parts pathClean queryClean
  rw [splitUrl, splitOnce_append_cons schemeClean]
  simp only [List.takeWhile_append_of_pos keeps, List.dropWhile_append_of_pos keeps, stops.1,
    stops.2, List.append_nil, whole, pathPart, queryPart, fragmentPart]

/-- A tail that does not start with a delimiter runs on into the authority. -/
theorem authority_of_splitUrl {scheme authority tail : List Char} {parts : UrlParts} {head : Char}
    (schemeClean : ':' ∉ scheme) (authorityClean : ∀ char ∈ authority, endsAuthority char = false)
    (runsOn : endsAuthority head = false)
    (split : splitUrl (scheme ++ ':' :: '/' :: '/' :: (authority ++ head :: tail)) = some parts) :
    parts.authority ≠ authority := by
  have keeps := keeps_authority authorityClean
  rw [splitUrl, splitOnce_append_cons schemeClean] at split
  obtain rfl := Option.some.inj split
  simp only [List.takeWhile_append_of_pos keeps, List.takeWhile_cons, runsOn, Bool.not_false,
    if_true]
  intro same
  have lengths := congrArg List.length same
  simp at lengths

end HighperfServer.Library
