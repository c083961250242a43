import Mathlib.Data.List.Basic
import Concordance.Service.Server

/-!
# Which origins an answer allows

A setting is meant to list the origins that may read answers, and to allow all
origins when it names none that can be used, or an asterisk (`Origins.meant?`).
Settings of two kinds do not keep this word, and no others
(`Origins.ofSettingWith_answers`).

An asterisk cannot stand in the list, so with one among the items there is no
server at all. And an empty item can be written into a header as well as any
other text. A setting that is blank, or has nothing but commas, consists of such
items, so there is a list, and it allows nobody.

What can be written into a header is left open, except that plain text can: the
visible characters of ASCII, spaces and tabs. All other settings that name no
usable origin allow every origin, and all others that name one allow an origin
exactly if they name it.
-/

namespace Concordance

namespace Origins

/-- Whether a text has nothing but visible characters, spaces and tabs. -/
def isPlain (text : String) : Bool :=
  text.toList.all fun c => c = '\t' || (' ' ≤ c && c < '\x7F')

theorem isHeaderText_of_isPlain (text : String) (h : isPlain text = true) :
    isHeaderText text = true := by
  refine List.all_eq_true.mpr fun c hc => ?_
  have hplain := List.all_eq_true.mp h c hc
  simp only [Bool.or_eq_true, Bool.and_eq_true, decide_eq_true_eq] at hplain ⊢
  refine hplain.imp_right fun hvisible => ⟨hvisible.1, ?_⟩
  rintro rfl
  exact absurd hvisible.2 (by decide)

/-- The usable origins that a setting names. An empty item names none. -/
def named (writable : String → Bool) (setting? : Option String) : List String :=
  (itemsOf setting?).filter fun item => item ≠ "" && writable item

/-- What an answer is meant to allow to a page of an origin. -/
def meant? (writable : String → Bool) (setting? origin? : Option String) :
    Option String :=
  if named writable setting? = [] ∨ "*" ∈ itemsOf setting? then some "*"
  else origin?.filter (· ∈ itemsOf setting?)

/-- A server can be set up, and each answer allows to the page that asks what it
is meant to. -/
def KeepsWord (writable : String → Bool) (setting? : Option String) : Prop :=
  ∃ origins, ofSettingWith writable setting? = .ok origins ∧
    ∀ (server : Server) (request : Request) (response : Response),
      (∀ origin ∈ request.origin?, writable origin = true) →
      (server.respond origins request).2 = some response →
      response.allowedOrigin? = meant? writable setting? request.origin?

variable {writable : String → Bool} {setting? : Option String}

/-! ## Answers -/

/-- Every answer of a server says what its origins allow. -/
theorem allowedOrigin?_respond {server : Server} {origins : Origins}
    {request : Request} {response : Response}
    (h : (server.respond origins request).2 = some response) :
    response.allowedOrigin? = origins.allowed? request.origin? := by
  unfold Server.respond at h
  dsimp only at h
  split at h
  · cases h; rfl
  · split at h
    · cases h; rfl
    · split at h
      · cases h; rfl
      · obtain ⟨answer, -, rfl⟩ := Option.map_eq_some_iff.mp h
        rfl

/-- A request for the options is answered whatever there is to search. -/
theorem exists_respond (origins : Origins) (origin? : Option String) :
    ∃ (server : Server) (request : Request) (response : Response),
      request.origin? = origin? ∧
        (server.respond origins request).2 = some response :=
  ⟨.start .empty .exactly, ⟨"OPTIONS", ⟨[], none⟩, origin?⟩, _, rfl, rfl⟩

/-! ## Settings -/

/-- What the items of a setting come to. -/
inductive ComesTo (writable : String → Bool) (items : List String) :
    Except OriginsFault Origins → Prop where
  | refused (hstar : "*" ∈ items) :
      ComesTo writable items (.error .wildcardListed)
  | any (hnone : ∀ item ∈ items, writable item = false) :
      ComesTo writable items (.ok any)
  | listed (hstar : "*" ∉ items)
      (hsome : ∃ item ∈ items, writable item = true) :
      ComesTo writable items (.ok (listed (items.filter writable)))

theorem comesTo_ofSettingWith (hstar : writable "*" = true)
    (setting? : Option String) :
    ComesTo writable (itemsOf setting?) (ofSettingWith writable setting?) := by
  unfold ofSettingWith
  split
  · next hnil => exact .any (by simpa using hnil)
  · next hne =>
      have hsome := mt List.filter_eq_nil_iff.mpr hne
      split
      · next hmem => exact .refused (List.mem_of_mem_filter hmem)
      · next hmem =>
          refine .listed (fun hitem => hmem ?_) (by simpa using hsome)
          exact List.mem_filter.mpr ⟨hitem, hstar⟩

theorem mem_named {item : String} : item ∈ named writable setting? ↔
    item ∈ itemsOf setting? ∧ item ≠ "" ∧ writable item = true := by
  simp [named]

theorem keepsWord_iff (hstar : writable "*" = true)
    (hempty : writable "" = true) (setting? : Option String) :
    KeepsWord writable setting? ↔ "*" ∉ itemsOf setting? ∧
      ("" ∈ itemsOf setting? → named writable setting? ≠ []) := by
  have hcomes := comesTo_ofSettingWith hstar setting?
  unfold KeepsWord
  generalize ofSettingWith writable setting? = built at hcomes
  cases hcomes with
  | refused hitem => simp [hitem]
  | any hnone =>
      have hnamed : named writable setting? = [] := by
        refine List.eq_nil_iff_forall_not_mem.mpr fun item hitem => ?_
        obtain ⟨hmem, -, hwritable⟩ := mem_named.mp hitem
        simp [hnone item hmem] at hwritable
      have hno : ∀ item, writable item = true → item ∉ itemsOf setting? := by
        intro item hwritable hmem
        simp [hnone item hmem] at hwritable
      refine iff_of_true ⟨any, rfl, ?_⟩
        ⟨hno "*" hstar, fun hmem => absurd hmem (hno "" hempty)⟩
      intro server request response _ hresponse
      rw [allowedOrigin?_respond hresponse, meant?, if_pos (.inl hnamed)]
      rfl
  | listed hitem hsome =>
      by_cases hnamed : named writable setting? = []
      · -- What is written into the list is an empty item, and names nobody.
        have hmem : "" ∈ itemsOf setting? := by
          obtain ⟨item, hmem, hwritable⟩ := hsome
          by_contra hnot
          have := mem_named.mpr ⟨hmem, fun h => hnot (h ▸ hmem), hwritable⟩
          rw [hnamed] at this
          cases this
        refine iff_of_false ?_ fun h => h.2 hmem hnamed
        rintro ⟨origins, ⟨⟩, hall⟩
        obtain ⟨server, request, response, horigin, hresponse⟩ :=
          exists_respond (listed ((itemsOf setting?).filter writable)) none
        have hmeant := hall server request response (by simp [horigin]) hresponse
        rw [allowedOrigin?_respond hresponse, meant?, if_pos (.inl hnamed),
          horigin] at hmeant
        cases hmeant
      · refine iff_of_true ⟨_, rfl, ?_⟩ ⟨hitem, fun _ => hnamed⟩
        intro server request response hwritable hresponse
        rw [allowedOrigin?_respond hresponse, meant?,
          if_neg (not_or.mpr ⟨hnamed, hitem⟩)]
        cases horigin : request.origin? with
        | none => rfl
        | some origin =>
            have := hwritable origin horigin
            simp [allowed?, Option.filter, this]

/-- A setting with an asterisk among its items is refused, and no other. Without
items that can be written into a header every origin is allowed, and with such
items it is the origins that are among them. This is what the setting is meant to
say unless there is an asterisk, or an empty item and no origin besides. -/
theorem ofSettingWith_answers
    (hplain : ∀ text, isPlain text = true → writable text = true)
    (setting? : Option String) :
    (ofSettingWith writable setting? = .error .wildcardListed ↔
      "*" ∈ itemsOf setting?) ∧
    (∀ origins, ofSettingWith writable setting? = .ok origins →
      ∀ (server : Server) (request : Request) (response : Response),
        (server.respond origins request).2 = some response →
        ((∀ item ∈ itemsOf setting?, writable item = false) →
          response.allowedOrigin? = some "*") ∧
        ((∃ item ∈ itemsOf setting?, writable item = true) →
          ∀ header, response.allowedOrigin? = some header ↔
            request.origin? = some header ∧ header ∈ itemsOf setting? ∧
              writable header = true)) ∧
    (KeepsWord writable setting? ↔ "*" ∉ itemsOf setting? ∧
      ("" ∈ itemsOf setting? → named writable setting? ≠ [])) := by
  have hstar : writable "*" = true := hplain "*" (by decide)
  have hcomes := comesTo_ofSettingWith hstar setting?
  refine ⟨?_, ?_, keepsWord_iff hstar (hplain "" (by decide)) setting?⟩
  · generalize ofSettingWith writable setting? = built at hcomes
    cases hcomes with
    | refused hitem => exact iff_of_true rfl hitem
    | any hnone =>
        refine iff_of_false (by simp) fun hitem => ?_
        simp [hnone "*" hitem] at hstar
    | listed hitem => exact iff_of_false (by simp) hitem
  · intro origins hbuilt server request response hresponse
    rw [hbuilt] at hcomes
    rw [allowedOrigin?_respond hresponse]
    cases hcomes with
    | any hnone =>
        refine ⟨fun _ => rfl, ?_⟩
        rintro ⟨item, hitem, hwritable⟩
        simp [hnone item hitem] at hwritable
    | listed _ hsome =>
        obtain ⟨item, hitem, hwritable⟩ := hsome
        refine ⟨fun hnone => ?_, fun _ header => ?_⟩
        · simp [hnone item hitem] at hwritable
        · simp [allowed?, Option.filter_eq_some_iff]

/-- A setting that lists two origins, and blanks behind the last comma. -/
def twoOrigins : Option String := some " http://a.test, http://b.test, "

theorem answers_twoOrigins :
    (∀ text, isPlain text = true → isHeaderText text = true) ∧
      KeepsWord isHeaderText twoOrigins :=
  ⟨isHeaderText_of_isPlain,
    (ofSettingWith_answers isHeaderText_of_isPlain twoOrigins).2.2.mpr
      (by decide +kernel)⟩

/-- An asterisk is meant to allow every origin, and there is no server. A blank
setting is meant to allow every origin as well, and none is allowed. -/
theorem settings_misread :
    ofSetting (some "*") = .error .wildcardListed ∧
    meant? isHeaderText (some "*") (some "http://a.test") = some "*" ∧
    ofSetting (some " ") = .ok (listed [""]) ∧
    (listed [""]).allowed? (some "http://a.test") = none ∧
    meant? isHeaderText (some " ") (some "http://a.test") = some "*" := by
  decide +kernel

end Origins

end Concordance
