import SqlBuilder.Proofs.PercentDecoding
import SqlBuilder.Url.Basic
import Mathlib.Data.List.TakeWhile

/-!
# Taking the text of a URL apart

Whoever is handed the text of a URL finds its parts by the characters between them.  The query
stands behind the first question mark.  What stands before that begins with the scheme, a colon and
two slashes; the authority goes on from there up to the next slash, where the path begins.  The
server is what stands behind the last `@` of the authority, and the user name ends at the first
colon of what stands before it.

The functions of `UrlText` look for these characters and know nothing else of URLs.  A URL none of
whose parts holds a character that would end the part (`Url.IsDelimited`) comes apart into the parts
that it was written from (`Url.IsDelimited.beforeQuery_render` and what follows it).
-/
namespace SqlBuilder

namespace UrlText

/-- A text up to its first question mark. -/
def beforeQuery (text : List Char) : List Char := text.takeWhile (· ≠ '?')

/-- What stands behind the first question mark, if there is one. -/
def query? (text : List Char) : Option (List Char) :=
  match text.dropWhile (· ≠ '?') with
  | [] => none
  | _ :: query => some query

/-- What stands behind the scheme, its colon and two slashes, up to the query. -/
def behindScheme (text : List Char) : List Char :=
  ((beforeQuery text).dropWhile (· ≠ ':')).drop 3

def authority (text : List Char) : List Char := (behindScheme text).takeWhile (· ≠ '/')

def path (text : List Char) : List Char := (behindScheme text).dropWhile (· ≠ '/')

/-- The host and the port: what stands behind the last `@` of the authority, or all of it. -/
def server (text : List Char) : List Char := ((authority text).reverse.takeWhile (· ≠ '@')).reverse

/-- What stands before the last `@` of the authority, or nothing. -/
def userInfo (text : List Char) : List Char :=
  (authority text).take ((authority text).length - (server text).length - 1)

def user (text : List Char) : List Char := (userInfo text).takeWhile (· ≠ ':')

def password (text : List Char) : List Char := ((userInfo text).dropWhile (· ≠ ':')).drop 1

/-- A text is the URL of a server: the scheme and two slashes, an authority with at most one `@`
that names the server and ends at the next slash, a path, possibly a query, and no fragment. -/
structure LeadsTo (text scheme server : List Char) : Prop where
  beforeQuery_eq : beforeQuery text = scheme ++ "://".toList ++ authority text ++ path text
  path_head : (path text).head? = some '/'
  not_mem : '#' ∉ text
  count_le : (authority text).count '@' ≤ 1
  server_eq : UrlText.server text = server

/-- A text has a query just if there are options, and they are what its query is read as. -/
structure Carries (text : List Char) (options : List (String × String)) : Prop where
  query_isSome : (query? text).isSome = !options.isEmpty
  ofText?_eq : FormQuery.ofText? ((query? text).getD []) = some options

/-! ## Parts and what ends them -/

section Delimiters

variable {part : List Char} {d : Char} (h : d ∉ part)
include h

theorem ne_of_not_mem : ∀ c ∈ part, decide (c ≠ d) = true := by
  intro c hc
  refine decide_eq_true ?_
  rintro rfl
  exact h hc

theorem takeWhile_part (rest : List Char) : (part ++ d :: rest).takeWhile (· ≠ d) = part := by
  rw [List.takeWhile_append_of_pos (ne_of_not_mem h), List.takeWhile_cons_of_neg (by simp),
    List.append_nil]

theorem dropWhile_part (rest : List Char) :
    (part ++ d :: rest).dropWhile (· ≠ d) = d :: rest := by
  rw [List.dropWhile_append_of_pos (ne_of_not_mem h), List.dropWhile_cons_of_neg (by simp)]

theorem takeWhile_whole : part.takeWhile (· ≠ d) = part :=
  List.takeWhile_eq_self_iff.mpr (ne_of_not_mem h)

theorem dropWhile_whole : part.dropWhile (· ≠ d) = [] :=
  List.dropWhile_eq_nil_iff.mpr (ne_of_not_mem h)

end Delimiters

/-- A query with its question mark, if there is one. -/
def ofQuery : Option (List Char) → List Char
  | some query => '?' :: query
  | none => []

theorem beforeQuery_append {text : List Char} (h : '?' ∉ text) (query : Option (List Char)) :
    beforeQuery (text ++ ofQuery query) = text := by
  cases query with
  | none => exact (congrArg beforeQuery (List.append_nil text)).trans (takeWhile_whole h)
  | some query => exact takeWhile_part h query

theorem query?_append {text : List Char} (h : '?' ∉ text) (query : Option (List Char)) :
    query? (text ++ ofQuery query) = query := by
  cases query with
  | none =>
    rw [ofQuery, List.append_nil, query?, dropWhile_whole h]
  | some query =>
    rw [ofQuery, query?, dropWhile_part h]

end UrlText

namespace Url

/-! ## URLs whose parts hold no delimiters -/

/-- The characters that stand between the parts of a URL. -/
def isDelimiter (c : Char) : Bool := c ∈ ['/', ':', '?', '#', '@']

/-- No part of a URL holds a character that would end it. -/
structure IsDelimited (u : Url) : Prop where
  scheme : ∀ c ∈ u.scheme.toList, isDelimiter c = false
  user : ∀ c ∈ u.user, isDelimiter c = false
  password : ∀ c ∈ u.password, isDelimiter c = false
  host : ∀ c ∈ u.host.render, isDelimiter c = false
  path_head : ∃ rest, u.path = '/' :: rest
  path : ∀ c ∈ u.path, c ≠ '?' ∧ c ≠ '#'
  query : ∀ query, u.query = some query → '#' ∉ query
  fragment : u.fragment = none

/-- The user name and the password, as they are written. -/
def userInfo (u : Url) : List Char :=
  if u.password = [] then u.user else u.user ++ ':' :: u.password

/-- The host and the port, as they are written. -/
def server (u : Url) : List Char := u.host.render ++ u.renderPort

/-- What is written between the two slashes and the path. -/
def authority (u : Url) : List Char :=
  if u.userInfo = [] then u.server else u.userInfo ++ '@' :: u.server

theorem renderUserInfo_append_server (u : Url) : u.renderUserInfo ++ u.server = u.authority := by
  unfold authority userInfo renderUserInfo
  by_cases hpassword : u.password = []
  · by_cases huser : u.user = [] <;> simp [hpassword, huser]
  · simp [hpassword]

theorem not_mem_of_isDelimiter {part : List Char} (h : ∀ c ∈ part, isDelimiter c = false) {d : Char}
    (hd : isDelimiter d = true) : d ∉ part := by
  intro hmem
  rw [h d hmem] at hd
  cases hd

/-- Encoded user information holds no delimiter. -/
theorem isDelimiter_of_mem_encode {text : List Char} {c : Char}
    (h : c ∈ Percent.encode Percent.inUserInfo text) : isDelimiter c = false := by
  refine Bool.eq_false_iff.mpr fun hdelimiter => ?_
  have hescaped : Percent.inUserInfo c = true ∧ c ≠ '%' ∧ Ipv6.isHexDigit c = false := by
    simp only [isDelimiter, decide_eq_true_eq, List.mem_cons, List.not_mem_nil,
      or_false] at hdelimiter
    rcases hdelimiter with rfl | rfl | rfl | rfl | rfl <;> decide
  rcases Percent.of_mem_encode h with hpercent | hdigit | ⟨-, hkept⟩
  · exact hescaped.2.1 hpercent
  · exact Bool.eq_false_iff.mp hescaped.2.2 hdigit
  · exact Bool.eq_false_iff.mp hkept hescaped.1

/-- A port is written in digits behind a colon. -/
theorem not_mem_renderPort (u : Url) {d : Char} (hd : isDelimiter d = true) (hcolon : d ≠ ':') :
    d ∉ u.renderPort := by
  intro hmem
  unfold renderPort at hmem
  cases hport : u.port with
  | none =>
    rw [hport] at hmem
    cases hmem
  | some port =>
    rw [hport] at hmem
    rcases List.mem_cons.mp hmem with hmem | hmem
    · exact hcolon hmem
    · have hdigit : d.isDigit = true := by
        rw [Nat.toString_eq_repr, Nat.toList_repr] at hmem
        exact Nat.isDigit_of_mem_toDigits (by decide) (by decide) hmem
      simp only [isDelimiter, decide_eq_true_eq, List.mem_cons, List.not_mem_nil, or_false] at hd
      rcases hd with rfl | rfl | rfl | rfl | rfl <;> exact absurd hdigit (by decide)

namespace IsDelimited

variable {u : Url} (h : u.IsDelimited)
include h

theorem not_mem_server {d : Char} (hd : isDelimiter d = true) (hcolon : d ≠ ':') :
    d ∉ u.server := by
  rw [server, List.mem_append, not_or]
  exact ⟨not_mem_of_isDelimiter h.host hd, not_mem_renderPort u hd hcolon⟩

theorem not_mem_userInfo {d : Char} (hd : isDelimiter d = true) (hcolon : d ≠ ':') :
    d ∉ u.userInfo := by
  unfold userInfo
  split
  · exact not_mem_of_isDelimiter h.user hd
  · rw [List.mem_append, List.mem_cons, not_or, not_or]
    exact ⟨not_mem_of_isDelimiter h.user hd, hcolon, not_mem_of_isDelimiter h.password hd⟩

theorem not_mem_authority {d : Char} (hd : isDelimiter d = true) (hcolon : d ≠ ':')
    (hat : d ≠ '@') : d ∉ u.authority := by
  unfold authority
  split
  · exact h.not_mem_server hd hcolon
  · rw [List.mem_append, List.mem_cons, not_or, not_or]
    exact ⟨h.not_mem_userInfo hd hcolon, hat, h.not_mem_server hd hcolon⟩

theorem count_authority_le : u.authority.count '@' ≤ 1 := by
  have hserver : u.server.count '@' = 0 :=
    List.count_eq_zero.mpr (h.not_mem_server (by decide) (by decide))
  have hinfo : u.userInfo.count '@' = 0 :=
    List.count_eq_zero.mpr (h.not_mem_userInfo (by decide) (by decide))
  unfold authority
  split
  · omega
  · rw [List.count_append, List.count_cons_self]
    omega

/-! ## The text of such a URL -/

/-- The two halves of the text: what is looked at for the authority and the path, and the query. -/
theorem toList_render :
    u.render.toList =
      (u.scheme.toList ++ ':' :: '/' :: '/' :: (u.authority ++ u.path)) ++
        UrlText.ofQuery u.query := by
  have hfragment : u.renderFragment = [] := by rw [renderFragment, h.fragment]
  have hquery : u.renderQuery = UrlText.ofQuery u.query := by
    unfold renderQuery
    cases u.query <;> rfl
  rw [render, String.toList_append, String.toList_ofList, hfragment, hquery, List.append_nil,
    ← renderUserInfo_append_server, server]
  simp only [List.append_assoc, List.cons_append]
  rfl

theorem not_mem_beforeQuery :
    '?' ∉ u.scheme.toList ++ ':' :: '/' :: '/' :: (u.authority ++ u.path) := by
  have hscheme : '?' ∉ u.scheme.toList := not_mem_of_isDelimiter h.scheme (by decide)
  have hauthority : '?' ∉ u.authority := h.not_mem_authority (by decide) (by decide) (by decide)
  have hpath : '?' ∉ u.path := fun hmem => (h.path _ hmem).1 rfl
  simp [hscheme, hauthority, hpath]

theorem beforeQuery_render :
    UrlText.beforeQuery u.render.toList =
      u.scheme.toList ++ ':' :: '/' :: '/' :: (u.authority ++ u.path) := by
  rw [h.toList_render, UrlText.beforeQuery_append h.not_mem_beforeQuery]

theorem query?_render : UrlText.query? u.render.toList = u.query := by
  rw [h.toList_render, UrlText.query?_append h.not_mem_beforeQuery]

theorem not_mem_render : '#' ∉ u.render.toList := by
  have hscheme : '#' ∉ u.scheme.toList := not_mem_of_isDelimiter h.scheme (by decide)
  have hauthority : '#' ∉ u.authority := h.not_mem_authority (by decide) (by decide) (by decide)
  have hpath : '#' ∉ u.path := fun hmem => (h.path _ hmem).2 rfl
  have hquery : '#' ∉ UrlText.ofQuery u.query := by
    cases hu : u.query with
    | none => exact List.not_mem_nil
    | some query => simpa [UrlText.ofQuery] using h.query query hu
  rw [h.toList_render]
  simp [hscheme, hauthority, hpath, hquery]

theorem behindScheme_render :
    UrlText.behindScheme u.render.toList = u.authority ++ u.path := by
  rw [UrlText.behindScheme, h.beforeQuery_render,
    UrlText.dropWhile_part (not_mem_of_isDelimiter h.scheme (by decide))]
  rfl

theorem authority_render : UrlText.authority u.render.toList = u.authority := by
  obtain ⟨rest, hpath⟩ := h.path_head
  rw [UrlText.authority, h.behindScheme_render, hpath,
    UrlText.takeWhile_part (h.not_mem_authority (by decide) (by decide) (by decide))]

theorem path_render : UrlText.path u.render.toList = u.path := by
  obtain ⟨rest, hpath⟩ := h.path_head
  rw [UrlText.path, h.behindScheme_render, hpath,
    UrlText.dropWhile_part (h.not_mem_authority (by decide) (by decide) (by decide))]

theorem server_render : UrlText.server u.render.toList = u.server := by
  have hserver : '@' ∉ u.server.reverse := by
    rw [List.mem_reverse]
    exact h.not_mem_server (by decide) (by decide)
  rw [UrlText.server, h.authority_render, authority]
  split
  · rw [UrlText.takeWhile_whole hserver, List.reverse_reverse]
  · rw [List.reverse_append, List.reverse_cons, List.append_assoc, List.singleton_append,
      UrlText.takeWhile_part hserver, List.reverse_reverse]

theorem userInfo_render : UrlText.userInfo u.render.toList = u.userInfo := by
  rw [UrlText.userInfo, h.server_render, h.authority_render, authority]
  split
  · next hinfo => rw [Nat.sub_self, Nat.zero_sub, List.take_zero, hinfo]
  · have hlength : (u.userInfo ++ '@' :: u.server).length - u.server.length - 1 =
        u.userInfo.length := by
      rw [List.length_append, List.length_cons]
      omega
    rw [hlength, List.take_left]

theorem user_render : UrlText.user u.render.toList = u.user := by
  have huser : ':' ∉ u.user := not_mem_of_isDelimiter h.user (by decide)
  rw [UrlText.user, h.userInfo_render, userInfo]
  split
  · exact UrlText.takeWhile_whole huser
  · exact UrlText.takeWhile_part huser _

theorem password_render : UrlText.password u.render.toList = u.password := by
  have huser : ':' ∉ u.user := not_mem_of_isDelimiter h.user (by decide)
  rw [UrlText.password, h.userInfo_render, userInfo]
  split
  · next hpassword => rw [UrlText.dropWhile_whole huser, hpassword, List.drop_nil]
  · rw [UrlText.dropWhile_part huser]
    rfl

theorem leadsTo : UrlText.LeadsTo u.render.toList u.scheme.toList u.server where
  beforeQuery_eq := by
    rw [h.beforeQuery_render, h.authority_render, h.path_render]
    simp
  path_head := by
    obtain ⟨rest, hpath⟩ := h.path_head
    rw [h.path_render, hpath, List.head?_cons]
  not_mem := h.not_mem_render
  count_le := h.authority_render ▸ h.count_authority_le
  server_eq := h.server_render

end IsDelimited

end Url

end SqlBuilder
