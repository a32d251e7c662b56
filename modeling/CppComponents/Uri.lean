import CppComponents.Tokens

/-!
# The authority of a URI

A URI with an authority is a scheme, a colon, two slashes, the authority, and the
rest. The authority ends before the first slash, question mark or number sign; what
is before its last `@` is the user information; what is after the last colon of the
remainder is the port. The host is what is left.

`split` takes a URI apart by these rules. `authority_of_parts` says what they find
in a URI that was put together from a scheme, a host, a port and a tail: the host and
the port, exactly if the tail ends the authority.
-/

namespace CppComponents.Uri

open CppComponents.Tokens

structure Authority where
  userinfo : Option (List Char)
  host : List Char
  port : Option (List Char)
  deriving DecidableEq, Repr

/-- A URI that has an authority. -/
structure Parts where
  scheme : List Char
  authority : Authority
  rest : List Char
  deriving DecidableEq, Repr

/-- Does the character end an authority? -/
def isDelimiter (a : Char) : Bool := a = '/' || a = '?' || a = '#'

/-- What begins like this, or is empty, ends an authority. -/
def EndsAuthority (tail : List Char) : Prop := ∀ a ∈ tail.head?, isDelimiter a = true

instance (tail : List Char) : Decidable (EndsAuthority tail) :=
  match tail with
  | [] => isTrue (by simp [EndsAuthority])
  | a :: _ => decidable_of_iff (isDelimiter a = true) (by simp [EndsAuthority])

def splitHostPort (userinfo : Option (List Char)) (text : List Char) : Authority :=
  match splitLast ':' text with
  | some (host, port) => ⟨userinfo, host, some port⟩
  | none => ⟨userinfo, text, none⟩

def splitAuthority (text : List Char) : Authority :=
  match splitLast '@' text with
  | some (userinfo, hostport) => splitHostPort (some userinfo) hostport
  | none => splitHostPort none text

def split (uri : List Char) : Option Parts :=
  match splitFirst ':' uri with
  | some (scheme, '/' :: '/' :: rest) =>
    some ⟨scheme, splitAuthority (rest.takeWhile fun a => !isDelimiter a),
      rest.dropWhile fun a => !isDelimiter a⟩
  | _ => none

/-! ## What the rules find -/

/-- A host or a port with none of the characters that separate the parts of an
authority. Names and dotted addresses are of this kind. -/
structure Plain (text : List Char) : Prop where
  colon : ':' ∉ text
  atSign : '@' ∉ text
  delimiter : ∀ a ∈ text, isDelimiter a = false

theorem splitAuthority_userinfo {text : List Char} (h : '@' ∈ text) :
    (splitAuthority text).userinfo ≠ none := by
  obtain ⟨parts, hparts⟩ : ∃ parts, splitLast '@' text = some parts :=
    Option.ne_none_iff_exists'.mp fun hnone => splitLast_eq_none.mp hnone h
  rw [splitAuthority, hparts]
  simp only [splitHostPort]
  split <;> simp

theorem splitAuthority_no_userinfo {text : List Char} (h : '@' ∉ text) :
    splitAuthority text = splitHostPort none text := by
  rw [splitAuthority, splitLast_eq_none.mpr h]

theorem splitHostPort_append (userinfo : Option (List Char)) (host : List Char)
    {port : List Char} (h : ':' ∉ port) :
    splitHostPort userinfo (host ++ ':' :: port) = ⟨userinfo, host, some port⟩ := by
  rw [splitHostPort, splitLast_append host h]

/-- Anything after the port makes it another authority. -/
theorem splitAuthority_iff {host port : List Char} (hhost : Plain host) (hport : Plain port)
    (extra : List Char) :
    splitAuthority (host ++ ':' :: (port ++ extra)) = ⟨none, host, some port⟩ ↔ extra = [] := by
  constructor
  · intro hsplit
    by_cases hat : '@' ∈ extra
    · -- what was meant for host and port has become user information
      have huserinfo : (splitAuthority (host ++ ':' :: (port ++ extra))).userinfo ≠ none :=
        splitAuthority_userinfo (by simp [hat])
      rw [hsplit] at huserinfo
      exact absurd rfl huserinfo
    · have hnone : '@' ∉ host ++ ':' :: (port ++ extra) := by
        simp [hhost.atSign, hport.atSign, hat]
      rw [splitAuthority_no_userinfo hnone] at hsplit
      by_cases hcolon : ':' ∈ extra
      · -- the last colon is in `extra`, so the host has grown
        obtain ⟨before, after, rfl, hafter⟩ := eq_append_cons_last hcolon
        have htext : host ++ ':' :: (port ++ (before ++ ':' :: after)) =
            (host ++ ':' :: (port ++ before)) ++ ':' :: after := by simp
        rw [htext, splitHostPort_append none _ hafter] at hsplit
        have hlength := congrArg (fun authority => authority.host.length) hsplit
        simp at hlength
      · have hafter : ':' ∉ port ++ extra := by simp [hport.colon, hcolon]
        rw [splitHostPort_append none host hafter] at hsplit
        simpa using hsplit
  · rintro rfl
    have hnone : '@' ∉ host ++ ':' :: (port ++ []) := by simp [hhost.atSign, hport.atSign]
    rw [splitAuthority_no_userinfo hnone, List.append_nil,
      splitHostPort_append none host hport.colon]

/-- **What a tail can do.** A URI put together from a scheme, a plain host, a plain port
and any tail has that host and that port if and only if the tail ends the authority. -/
theorem authority_of_parts {scheme host port : List Char} (hscheme : ':' ∉ scheme)
    (hhost : Plain host) (hport : Plain port) (tail : List Char) :
    (split (scheme ++ ':' :: '/' :: '/' :: (host ++ ':' :: (port ++ tail)))).map Parts.authority =
      some ⟨none, host, some port⟩ ↔ EndsAuthority tail := by
  -- `extra` is what the authority takes of the tail, and the claim is that it is empty
  obtain ⟨extra, rest, rfl, hextra, hrest⟩ : ∃ extra rest, tail = extra ++ rest ∧
      (∀ a ∈ extra, isDelimiter a = false) ∧ EndsAuthority rest := by
    refine ⟨tail.takeWhile fun a => !isDelimiter a, tail.dropWhile fun a => !isDelimiter a,
      List.takeWhile_append_dropWhile.symm, fun a ha => ?_, fun a ha => ?_⟩
    · simpa using List.mem_takeWhile_imp ha
    · have hhead := List.head?_dropWhile_not (fun a => !isDelimiter a) tail
      rw [ha] at hhead
      simpa using hhead
  have htext : (host ++ ':' :: (port ++ (extra ++ rest))).takeWhile (fun a => !isDelimiter a) =
      host ++ ':' :: (port ++ extra) := by
    have hnot : ∀ a ∈ host ++ ':' :: (port ++ extra), isDelimiter a = false := by
      intro a ha
      simp only [List.mem_append, List.mem_cons] at ha
      rcases ha with ha | rfl | ha | ha
      · exact hhost.delimiter a ha
      · rfl
      · exact hport.delimiter a ha
      · exact hextra a ha
    have := takeWhile_not_append hnot hrest
    simpa using this
  rw [split, splitFirst_append hscheme]
  simp only [htext, Option.map_some, Option.some.injEq]
  rw [splitAuthority_iff hhost hport extra]
  constructor
  · rintro rfl
    exact hrest
  · intro hends
    cases extra with
    | nil => rfl
    | cons a extra =>
      have ha : isDelimiter a = true := hends a rfl
      rw [hextra a List.mem_cons_self] at ha
      cases ha

end CppComponents.Uri
