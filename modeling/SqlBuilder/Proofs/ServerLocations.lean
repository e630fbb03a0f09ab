import SqlBuilder.Config.Location
import SqlBuilder.Proofs.UrlPaths
import SqlBuilder.Proofs.UrlTexts

/-!
# URLs of servers with plain host names

A host of ASCII letters, digits, `-` and `.` is a URL of its own that has nothing but the host
(`Host.IsPlain.ofAuthority_eq`).  What the other fields of a configuration hold is encoded and put
into its parts (`Config.serverLocation_eq`), and no part holds a delimiter
(`Config.isDelimited_serverUrl`).

So the other fields cannot change where the URL leads: it names the server that the name of the data
source shows, and its query is read as the options (`Config.target_of_url`).  But the encodings of
user information and of paths leave percent signs alone, and a path is resolved.  The user, the
password and the database come back from the URL just if none of them holds what looks like an
encoded byte, and the database name nothing that a path leaves out
(`Config.credentials_of_url_iff`).
-/
namespace SqlBuilder

namespace Host

/-- The characters of a plain host name. -/
def isPlain (c : Char) : Bool := c.isAlphanum || c == '-' || c == '.'

/-- A host name that is there and holds nothing but ASCII letters, digits, `-` and `.`. -/
def IsPlain (text : List Char) : Prop := text ≠ [] ∧ text.all isPlain = true

instance (text : List Char) : Decidable (IsPlain text) := inferInstanceAs (Decidable (_ ∧ _))

theorem toNat_lt_of_isAlphanum {c : Char} (h : c.isAlphanum = true) : c.toNat < 0x80 := by
  unfold Char.isAlphanum Char.isAlpha Char.isUpper Char.isLower Char.isDigit at h
  simp only [Bool.or_eq_true, Bool.and_eq_true, decide_eq_true_eq, ge_iff_le,
    UInt32.le_iff_toNat_le] at h
  have hdigit : ('9').val.toNat = 57 := rfl
  have hlower : ('z').val.toNat = 122 := rfl
  have hupper : ('Z').val.toNat = 90 := rfl
  show c.val.toNat < 0x80
  omega

theorem toNat_lt_of_isPlain {c : Char} (h : isPlain c = true) : c.toNat < 0x80 := by
  rw [isPlain, Bool.or_eq_true, Bool.or_eq_true, beq_iff_eq, beq_iff_eq] at h
  rcases h with (h | rfl) | rfl
  · exact toNat_lt_of_isAlphanum h
  · decide
  · decide

/-- What no plain ASCII character is, no plain character is. -/
theorem eq_false_of_isPlain {P : Char → Bool}
    (hP : ∀ n < 0x80, isPlain (Char.ofNat n) = true → P (Char.ofNat n) = false) {c : Char}
    (h : isPlain c = true) : P c = false := by
  rw [← Char.ofNat_toNat c] at h ⊢
  exact hP _ (by rw [← Char.ofNat_toNat c]; exact toNat_lt_of_isPlain h) h

theorem splitPort_eq {text : List Char} (h : ∀ c ∈ text, isPlain c = true) :
    Url.splitPort false text = (text, []) := by
  induction text with
  | nil => rfl
  | cons c rest ih =>
    have hne : ∀ d : Char, isPlain d = false → c ≠ d := by
      rintro d hd rfl
      exact Bool.eq_false_iff.mp hd (h c List.mem_cons_self)
    have hrest := ih fun d hd => h d (List.mem_cons_of_mem c hd)
    rw [Url.splitPort, if_neg fun hcolon => hne ':' (by decide) hcolon.1,
      if_neg (hne '[' (by decide)), if_neg (hne ']' (by decide))]
    show (c :: (Url.splitPort false rest).1, (Url.splitPort false rest).2) = _
    rw [hrest]

namespace IsPlain

variable {text : List Char} (h : IsPlain text)
include h

theorem isPlain_of_mem : ∀ c ∈ text, isPlain c = true := List.all_eq_true.mp h.2

theorem eq_false_of_mem {P : Char → Bool}
    (hP : ∀ n < 0x80, isPlain (Char.ofNat n) = true → P (Char.ofNat n) = false) :
    ∀ c ∈ text, P c = false :=
  fun c hc => eq_false_of_isPlain hP (h.isPlain_of_mem c hc)

theorem not_mem {d : Char} (hd : isPlain d = false) : d ∉ text := by
  intro hmem
  rw [h.isPlain_of_mem d hmem] at hd
  cases hd

/-- A plain host name is looked at as it stands. -/
theorem cleaned_eq : Url.cleaned text = text := by
  have htrimmed : text.reverse.dropWhile Url.isTrimmed = text.reverse := by
    cases hreverse : text.reverse with
    | nil => rfl
    | cons last before =>
      have hlast : last ∈ text := List.mem_reverse.mp (hreverse ▸ List.mem_cons_self)
      have htrimmed : Url.isTrimmed last = false := h.eq_false_of_mem (by decide) last hlast
      exact List.dropWhile_cons_of_neg (Bool.eq_false_iff.mp htrimmed)
  rw [Url.cleaned, htrimmed, List.reverse_reverse]
  exact UrlPath.filter_of_not_isIgnored (h.eq_false_of_mem (by decide))

theorem ofText_eq : ofText text = .ok (.name text) := by
  have hbracket : text.head? ≠ some '[' := by
    intro hhead
    exact h.not_mem (by decide) (List.mem_of_head? hhead)
  have hforbidden : text.any isForbidden = false := by
    refine List.any_eq_false.mpr fun c hc => Bool.eq_false_iff.mp ?_
    exact h.eq_false_of_mem (by decide) c hc
  have hencode : Percent.encode Percent.inHost text = text :=
    Percent.encode_of_forall (h.eq_false_of_mem (by decide))
  rw [ofText, if_neg hbracket, hforbidden, if_neg Bool.false_ne_true, hencode]

theorem splitLastAt_eq : Url.splitLastAt text = (none, text) := by
  have hat : '@' ∉ text.reverse := by
    rw [List.mem_reverse]
    exact h.not_mem (by decide)
  unfold Url.splitLastAt
  rw [UrlText.takeWhile_whole hat, List.reverse_reverse]
  exact if_pos rfl

/-- The URL of a plain host name has a host and nothing else. -/
theorem ofAuthority_eq (scheme : String) :
    Url.ofAuthority scheme text =
      .ok ⟨scheme, [], [], .name text, none, [], none, none⟩ := by
  have hends : ∀ c ∈ text, (!Url.endsAuthority c) = true := by
    intro c hc
    have hinside : Url.endsAuthority c = false := h.eq_false_of_mem (by decide) c hc
    rw [hinside]
    rfl
  have hauthority : text.takeWhile (fun c => !Url.endsAuthority c) = text :=
    List.takeWhile_eq_self_iff.mpr hends
  have htail : text.dropWhile (fun c => !Url.endsAuthority c) = [] :=
    List.dropWhile_eq_nil_iff.mpr hends
  -- The host has to be seen to be there, or else a URL without one could be refused.
  obtain ⟨first, rest, hcons⟩ := List.exists_cons_of_ne_nil h.1
  unfold Url.ofAuthority
  simp only [h.cleaned_eq, hauthority, htail, h.splitLastAt_eq, splitPort_eq h.isPlain_of_mem,
    h.ofText_eq]
  rw [hcons]
  rfl

end IsPlain

end Host

/-! ## The URL of a configuration -/

namespace Config

/-- The query that the options make, if there are any. -/
def query? (c : Config) : Option (List Char) :=
  if c.options.isEmpty then none else some (FormQuery.ofOptions c.options.entries)

/-- The URL of a server whose host is a plain name: every part of it is a part of the configuration,
encoded. -/
def serverUrl (c : Config) (dialect : Dialect) (port : UInt16) : Url where
  scheme := dialect.name
  user := Percent.encode Percent.inUserInfo (c.user.getD "").toList
  password := Percent.encode Percent.inUserInfo (c.password.getD "").toList
  host := .name c.hostText.toList
  port := some port.toNat
  path := UrlPath.ofText (c.dbname.toList.filter fun ch => !Url.isIgnored ch)
  query := c.query?
  fragment := none

variable {c : Config} {dialect : Dialect}

/-- A configuration for a server at `localhost`. -/
def atLocalhost (user password dbname : String) : Config :=
  { of "pgsql" dbname with host := some "localhost", user := some user, password := some password }

theorem exists_port (c : Config) (h : dialect ≠ .sqlite) :
    ∃ port, (c.port <|> dialect.defaultPort) = some port := by
  cases c.port with
  | some port => exact ⟨port, rfl⟩
  | none =>
    cases dialect with
    | postgres => exact ⟨5432, rfl⟩
    | mysql => exact ⟨3306, rfl⟩
    | sqlite => exact absurd rfl h

theorem addOptions_eq {url : Url} (h : url.query = none) :
    url.addOptions c.options.entries = { url with query := c.query? } := by
  unfold Url.addOptions query? Sorted.isEmpty
  rw [h]
  split
  · rw [← h]
  · rfl

/-- A plain host is connected to by its name and the port, whatever the configuration holds. -/
theorem serverLocation_eq {port : UInt16} (hhost : Host.IsPlain c.hostText.toList)
    (hport : (c.port <|> dialect.defaultPort) = some port) :
    c.serverLocation dialect = .ok (.server (c.serverUrl dialect port)) := by
  unfold serverLocation
  have hempty : (Host.name c.hostText.toList).isEmpty = false :=
    List.isEmpty_eq_false_iff.mpr hhost.1
  rw [hhost.ofAuthority_eq, hport]
  simp only [pure_bind, hempty]
  -- A part that is left out is the empty part of the host's own URL.
  rw [if_neg Bool.false_ne_true, addOptions_eq, serverUrl]
  · cases c.user <;> cases c.password <;> rfl
  · cases c.user <;> cases c.password <;> rfl

theorem isDelimiter_of_mem_name (dialect : Dialect) :
    ∀ ch ∈ dialect.name.toList, Url.isDelimiter ch = false := by
  have hnone : dialect.name.toList.any Url.isDelimiter = false := by cases dialect <;> decide
  exact fun ch hch => Bool.eq_false_iff.mpr (List.any_eq_false.mp hnone ch hch)

theorem isDelimited_serverUrl (hhost : Host.IsPlain c.hostText.toList) (port : UInt16) :
    (c.serverUrl dialect port).IsDelimited where
  scheme := isDelimiter_of_mem_name dialect
  user := fun _ h => Url.isDelimiter_of_mem_encode h
  password := fun _ h => Url.isDelimiter_of_mem_encode h
  host := hhost.eq_false_of_mem (by decide)
  path_head := UrlPath.exists_ofText_eq_cons _
  path := by
    intro ch h
    have hkept := UrlPath.inPath_of_mem_ofText h
    constructor
    · rintro rfl
      exact absurd hkept (by decide)
    · rintro rfl
      exact absurd hkept (by decide)
  query := by
    intro query h
    replace h : c.query? = some query := h
    unfold query? at h
    split at h
    · cases h
    · cases h
      exact FormQuery.not_mem_ofOptions (by decide) (by decide) (by decide) _
  fragment := rfl

theorem ofDriver?_of_dialect (h : c.dialect = .ok dialect) :
    Dialect.ofDriver? c.driver = some dialect := by
  unfold Config.dialect at h
  split at h
  · next hdriver =>
    cases h
    exact hdriver
  · cases h

/-- The URL of a configuration with a plain host. -/
theorem exists_url (hdialect : c.dialect = .ok dialect) (hserver : dialect ≠ .sqlite)
    (hhost : Host.IsPlain c.hostText.toList) :
    ∃ port, (c.port <|> dialect.defaultPort) = some port ∧
      c.url = .ok (c.serverUrl dialect port).render := by
  obtain ⟨port, hport⟩ := exists_port c hserver
  refine ⟨port, hport, ?_⟩
  have hbind : ∀ next : Dialect → Except Error Location,
      (Except.ok dialect >>= next) = next dialect := fun _ => rfl
  have hlocation : c.location = c.serverLocation dialect := by
    rw [location, hdialect, hbind]
    split
    · exact absurd rfl hserver
    · rfl
  rw [url, hlocation, serverLocation_eq hhost hport]
  rfl

theorem carries_query {text : List Char} (h : UrlText.query? text = c.query?) :
    UrlText.Carries text c.options.entries := by
  unfold query? Sorted.isEmpty at h
  split at h
  · next hempty =>
    rw [List.isEmpty_iff] at hempty
    constructor
    · rw [h, hempty]
      rfl
    · rw [h, hempty]
      rfl
  · next hsome =>
    constructor
    · rw [h, Bool.eq_false_iff.mpr hsome]
      rfl
    · rw [h]
      exact FormQuery.ofText?_ofOptions _

theorem server_serverUrl (c : Config) (dialect : Dialect) (port : UInt16) :
    (c.serverUrl dialect port).server = (c.hostText ++ ":" ++ toString port).toList := by
  rw [String.toList_append, String.toList_append, List.append_assoc]
  rfl

theorem toList_fileLocation (c : Config) :
    c.fileLocation.render.toList =
      ("sqlite:" ++ c.dbname).toList ++ UrlText.ofQuery c.query? := by
  have hsuffix : c.optionsSuffix.toList = UrlText.ofQuery c.query? := by
    unfold optionsSuffix query?
    split
    · rfl
    · rw [String.toList_append, String.toList_ofList, String.toList_ofList]
      rfl
  show (("sqlite" ++ ":") ++ (c.dbname ++ c.optionsSuffix)).toList = _
  rw [← String.append_assoc, String.toList_append, hsuffix]
  rfl

/-! ## Where it leads -/

/-- **Nothing in a configuration redirects its connection.**  With a plain host, the URL leads to
the configured host and port, or the usual port, which are those that the name of the data source
shows; its query is read as the options in the order of their names.  With a database in a file, the
text before the query names the file. -/
theorem target_of_url (c : Config) :
    (∀ dialect, c.dialect = .ok dialect → dialect ≠ .sqlite → Host.IsPlain c.hostText.toList →
      ∃ port text, (c.port <|> dialect.defaultPort) = some port ∧ c.url = .ok text ∧
        UrlText.LeadsTo text.toList dialect.name.toList
          (c.hostText ++ ":" ++ toString port).toList ∧
        UrlText.Carries text.toList c.options.entries ∧
        c.dsn = c.driver ++ ":host=" ++ c.hostText ++ ";port=" ++ toString port ++ ";dbname=" ++
          c.dbname ++ ";") ∧
    (c.dialect = .ok .sqlite → '?' ∉ c.dbname.toList →
      ∃ text, c.url = .ok text ∧
        UrlText.beforeQuery text.toList = ("sqlite:" ++ c.dbname).toList ∧
        UrlText.Carries text.toList c.options.entries) := by
  refine ⟨fun dialect hdialect hserver hhost => ?_, fun hdialect hname => ?_⟩
  · obtain ⟨port, hport, hurl⟩ := exists_url hdialect hserver hhost
    have hdelimited : (c.serverUrl dialect port).IsDelimited := isDelimited_serverUrl hhost port
    refine ⟨port, _, hport, hurl, ?_, carries_query hdelimited.query?_render, ?_⟩
    · rw [← server_serverUrl c dialect port]
      exact hdelimited.leadsTo
    · have heffective : c.effectivePort = some port := by
        rw [effectivePort, ofDriver?_of_dialect hdialect]
        exact hport
      rw [dsn, heffective]
      rfl
  · have hurl : c.url = .ok c.fileLocation.render := by
      rw [url, location, hdialect]
      rfl
    have hbefore : '?' ∉ ("sqlite:" ++ c.dbname).toList := by
      rw [String.toList_append, List.mem_append, not_or]
      exact ⟨by decide, hname⟩
    refine ⟨_, hurl, ?_, carries_query ?_⟩
    · rw [toList_fileLocation, UrlText.beforeQuery_append hbefore]
    · rw [toList_fileLocation, UrlText.query?_append hbefore]

theorem target_of_delimiters_in_fields :
    (∃ text, ((atLocalhost "a@b:c" "/?#@" "x?y#z/@w").withOption "a&b" "c=d+e #").url = .ok text ∧
      UrlText.LeadsTo text.toList "postgres".toList "localhost:5432".toList ∧
      UrlText.Carries text.toList [("a&b", "c=d+e #")]) ∧
    ∃ text, (sqliteMemory.withOption "mode" "rwc&?").url = .ok text ∧
      UrlText.beforeQuery text.toList = "sqlite::memory:".toList ∧
      UrlText.Carries text.toList [("mode", "rwc&?")] := by
  constructor
  · obtain ⟨port, text, hport, hurl, hleads, hcarries, -⟩ :=
      (target_of_url ((atLocalhost "a@b:c" "/?#@" "x?y#z/@w").withOption "a&b" "c=d+e #")).1
        .postgres rfl (by decide) (by decide)
    cases hport
    exact ⟨text, hurl, hleads, hcarries⟩
  · exact (target_of_url (sqliteMemory.withOption "mode" "rwc&?")).2 rfl (by decide)

/-! ## Credentials -/

theorem decodeText?_user_iff (hhost : Host.IsPlain c.hostText.toList) (port : UInt16) :
    Percent.decodeText? (UrlText.user (c.serverUrl dialect port).render.toList) =
        some (c.user.getD "") ↔
      ¬ Percent.HasEscape (c.user.getD "").toList := by
  rw [(isDelimited_serverUrl hhost port).user_render]
  exact Percent.decodeText?_encode_iff Percent.keepsEscapes_inUserInfo _

theorem decodeText?_password_iff (hhost : Host.IsPlain c.hostText.toList) (port : UInt16) :
    Percent.decodeText? (UrlText.password (c.serverUrl dialect port).render.toList) =
        some (c.password.getD "") ↔
      ¬ Percent.HasEscape (c.password.getD "").toList := by
  rw [(isDelimited_serverUrl hhost port).password_render]
  exact Percent.decodeText?_encode_iff Percent.keepsEscapes_inUserInfo _

theorem decodeText?_dbname_iff (hhost : Host.IsPlain c.hostText.toList) (port : UInt16) :
    Percent.decodeText? ((UrlText.path (c.serverUrl dialect port).render.toList).drop 1) =
        some c.dbname ↔
      ¬ Percent.HasEscape c.dbname.toList ∧ ¬ UrlPath.HasDotSegment c.dbname.toList ∧
        ∀ ch ∈ c.dbname.toList, Url.isIgnored ch = false := by
  rw [(isDelimited_serverUrl hhost port).path_render]
  exact UrlPath.decodeText?_path_iff c.dbname

/-- **Credentials and database are read back from the URL** just if they hold no escapes and the
database name has no dot segments, tabs and line ends; a user or password that is left out is read
as empty. -/
theorem credentials_of_url_iff (hdialect : c.dialect = .ok dialect) (hserver : dialect ≠ .sqlite)
    (hhost : Host.IsPlain c.hostText.toList) :
    ∃ text, c.url = .ok text ∧
      (Percent.decodeText? (UrlText.user text.toList) = some (c.user.getD "") ↔
        ¬ Percent.HasEscape (c.user.getD "").toList) ∧
      (Percent.decodeText? (UrlText.password text.toList) = some (c.password.getD "") ↔
        ¬ Percent.HasEscape (c.password.getD "").toList) ∧
      (Percent.decodeText? ((UrlText.path text.toList).drop 1) = some c.dbname ↔
        ¬ Percent.HasEscape c.dbname.toList ∧ ¬ UrlPath.HasDotSegment c.dbname.toList ∧
          ∀ ch ∈ c.dbname.toList, Url.isIgnored ch = false) := by
  obtain ⟨port, -, hurl⟩ := exists_url hdialect hserver hhost
  exact ⟨_, hurl, decodeText?_user_iff hhost port, decodeText?_password_iff hhost port,
    decodeText?_dbname_iff hhost port⟩

theorem credentials_with_delimiters :
    ∃ text, (atLocalhost "a:b" "100% p@ss/wörd" "data/v1.2").url = .ok text ∧
      Percent.decodeText? (UrlText.user text.toList) = some "a:b" ∧
      Percent.decodeText? (UrlText.password text.toList) = some "100% p@ss/wörd" ∧
      Percent.decodeText? ((UrlText.path text.toList).drop 1) = some "data/v1.2" := by
  have hdialect : (atLocalhost "a:b" "100% p@ss/wörd" "data/v1.2").dialect = .ok .postgres := rfl
  obtain ⟨text, hurl, huser, hpassword, hdbname⟩ :=
    credentials_of_url_iff hdialect (by decide) (by decide)
  have hignored : "data/v1.2".toList.any Url.isIgnored = false := by decide
  have hkept : ∀ ch ∈ "data/v1.2".toList, Url.isIgnored ch = false :=
    fun ch hch => Bool.eq_false_iff.mpr (List.any_eq_false.mp hignored ch hch)
  exact ⟨text, hurl, huser.mpr (by decide), hpassword.mpr (by decide),
    hdbname.mpr ⟨by decide, by decide, hkept⟩⟩

theorem not_all_credentials_survive :
    ¬ ∀ (c : Config) (dialect : Dialect), c.dialect = .ok dialect → dialect ≠ .sqlite →
      Host.IsPlain c.hostText.toList → c.dbname ≠ "" →
        ∃ text, c.url = .ok text ∧
          Percent.decodeText? (UrlText.user text.toList) = some (c.user.getD "") ∧
          Percent.decodeText? (UrlText.password text.toList) = some (c.password.getD "") ∧
          Percent.decodeText? ((UrlText.path text.toList).drop 1) = some c.dbname := by
  intro hall
  have hdialect : (atLocalhost "app" "%41" "app").dialect = .ok .postgres := rfl
  have hhost : Host.IsPlain (atLocalhost "app" "%41" "app").hostText.toList := by decide
  obtain ⟨text, hurl, -, hpassword, -⟩ := hall _ _ hdialect (by decide) hhost (by decide)
  obtain ⟨port, -, hserver⟩ := exists_url hdialect (by decide) hhost
  rw [hurl] at hserver
  cases hserver
  exact (decodeText?_password_iff hhost port).mp hpassword (by decide)

end Config

end SqlBuilder
