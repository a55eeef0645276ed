import MetricGateway.Proofs.Client.Building
import MetricGateway.Proofs.Gateway.Events
import MetricGateway.Proofs.Gateway.RangeRequest
import MetricGateway.Proofs.Url.Splice

/-!
# Where the values of a field are asked for

The name of a label is put into the URL of a request as it is. Whatever the name, the request goes
to the scheme, the host and the port of a plain base URL; but it goes to the place of the label's
values only if the name stays a segment of its own, and any other name leads elsewhere at the
backend (`directed`).
-/

namespace MetricGateway.Gateway

open Text
open Url (Base IsSegment counted)

/-- The segments before a label. -/
def labelSegments : List (List Char) := ["api".toList, "v1".toList, "label".toList]

/-- The segments of the place of a label's values. The label is one of them, as far as it counts. -/
def valuesSegments (label : List Char) : List (List Char) :=
  labelSegments ++ [Path.encode (counted label), "values".toList]

/-- No segment of the place of a label needs an escape. -/
theorem isPlain_labelSegments : ∀ segment ∈ labelSegments, Path.IsPlain segment := by decide

/-- The last segment of that place needs no escape either. -/
theorem isPlain_values : Path.IsPlain "values".toList := by decide

/-- The URL is that of the values of a label at a backend. -/
structure LeadsToValues (base : Base) (label : List Char) (url : Url) : Prop where
  path : url.path = .segments (base.segments ++ valuesSegments label)
  query : url.query = none
  fragment : url.fragment = none

/-- Where the URL for the values of a label leads. -/
structure Directed (base : Base) (label : List Char) (url : Url) : Prop where
  /-- It leads to the backend of the base URL. -/
  backend : url.scheme = base.scheme ∧ url.host = some base.host ∧ url.port = base.shownPort
  /-- It names no user. -/
  noUser : url.user = [] ∧ url.password = []
  /-- It leads to the values of the label if and only if the label stays a segment. -/
  leadsToValues_iff : LeadsToValues base label url ↔ IsSegment (counted label)
  /-- Then this is what is sent. -/
  text : IsSegment (counted label) → url.withoutUser.withoutFragment.render.toList =
    base.origin ++ Path.written (base.segments ++ valuesSegments label)
  /-- The label is a single segment there. -/
  single : IsSegment (counted label) → ∀ c ∈ Path.encode (counted label), c ∉ "/\\?#".toList
  /-- The segment stands for the label, if the label is not percent encoded itself and all of it
  counts. -/
  decode : '%' ∉ label → counted label = label →
    percentDecode (Path.encode (counted label)) = utf8Of label

/-- The characters of a written segment mean nothing in a URL, unless they stand in the segment. -/
theorem not_mem_of_mem_encode {text : List Char} (h : IsSegment text) {c : Char}
    (hc : c ∈ Path.encode text) : c ∉ "/\\?#".toList := by
  obtain ⟨hkeeps, hbasic, hmem | hsign⟩ := Path.mem_encode hc
  · exact h.noMark c hmem
  · exact forall_basic (p := fun c => c = '%' ∨ isAlphanumeric c = true → c ∉ "/\\?#".toList)
      (by decide) hbasic hsign

/-- The URL for the values of a label is read with the label in it. -/
theorem read_valuesPlace {baseUrl : String} {base : Base} (h : baseUrl.toList = base.text)
    (label : String) :
    Url.read (baseUrl ++ "/" ++ Client.valuesPlace label) =
      .ok (base.spliced labelSegments (counted label.toList ++ '/' :: "values".toList)) := by
  have htext : baseUrl ++ "/" ++ Client.valuesPlace label =
      String.ofList (base.text ++ Path.written labelSegments ++
        '/' :: (label.toList ++ '/' :: "values".toList)) := by
    have hplace : "/".toList ++ "api/v1/label/".toList = Path.written labelSegments ++ ['/'] := by
      decide
    have hafter : "/values".toList = '/' :: "values".toList := by decide
    unfold Client.valuesPlace
    rw [← String.toList_inj, String.toList_ofList]
    simp only [String.toList_append]
    rw [h, hafter, List.append_assoc, ← List.append_assoc "/".toList,
      ← List.append_assoc "/".toList, hplace]
    simp
  have hvalues : counted ('/' :: "values".toList) = '/' :: "values".toList := by decide
  have hne : label.toList ++ '/' :: "values".toList ≠ [] :=
    List.append_ne_nil_of_right_ne_nil _ (List.cons_ne_nil _ _)
  -- The text ends with a letter, so nothing is trimmed behind the label.
  have hlast : ∀ c ∈ (label.toList ++ '/' :: "values".toList).getLast?, Url.isOuter c = false := by
    rw [List.getLast?_append_of_ne_nil _ (List.cons_ne_nil _ _)]
    exact fun c hc => Option.mem_some.1 hc ▸ rfl
  rw [htext, base.read_spliced isPlain_labelSegments hne hlast, Url.counted_append, hvalues]

/-- Where the label leads, with all that counts of it behind the plain segments. -/
theorem directed_spliced (base : Base) (label : List Char) :
    Directed base label (base.spliced labelSegments (counted label ++ '/' :: "values".toList)) := by
  have hiff : base.spliced labelSegments (counted label ++ '/' :: "values".toList) =
      base.below (valuesSegments label) ↔ IsSegment (counted label) :=
    base.spliced_eq_below_iff isPlain_labelSegments isPlain_values
  refine ⟨⟨rfl, rfl, rfl⟩, ⟨rfl, rfl⟩, ?_, ?_, ?_, ?_⟩
  · -- Everything but path, query and fragment is that of the base anyway.
    rw [← hiff]
    constructor
    · intro hleads
      rw [base.spliced_eq, hleads.path, hleads.query, hleads.fragment]
      rfl
    · intro heq
      rw [heq]
      exact ⟨rfl, rfl, rfl⟩
  · intro h
    rw [hiff.2 h]
    exact (base.toList_render_bare_below (valuesSegments label) none).trans (List.append_nil _)
  · exact fun h c hc => not_mem_of_mem_encode h hc
  · intro hpercent hcounted
    rw [hcounted]
    exact Path.percentDecode_encode hpercent

/-- After every run, each client is registered under its own base URL. -/
theorem isKeyed_registryOf (run : List Event) : (registryOf run).IsKeyed := by
  intro url client hfind
  obtain ⟨event, -, hbuilds⟩ := exists_builds_registryOf hfind
  rw [← hbuilds.baseUrl]
  exact Client.baseUrl_of_build hbuilds.build

/-- After every run, whatever the name of a field, the values of its label are asked for at the
backend of the connection. They are asked for at their own place if and only if the label stays a
segment of its own. -/
theorem directed (before : List Event) (world : World) {connection : Connection} {base : Base}
    (hbase : connection.baseUrl.toList = base.text) (field : String) (start : Option String)
    (offset limit : Nat) :
    ∃ url, Url.read (connection.baseUrl ++ "/" ++ Client.valuesPlace (labelOf field)) = .ok url ∧
      Directed base (labelOf field).toList url ∧
      ∀ request, .backend request ∈ (fieldValues (registryOf before) world connection field start
          offset limit).exchange.requests →
        ∃ headers, request = Backend.requestOf url headers := by
  have hread := read_valuesPlace hbase (labelOf field)
  refine ⟨_, hread, directed_spliced base _, fun request hrequest => ?_⟩
  rcases Registry.mem_requests_withClient hrequest with ⟨token, htoken⟩ | ⟨client, hclient, hmem⟩
  · cases htoken
  have hkeyed : client.baseUrl = connection.baseUrl :=
    Registry.isKeyed_obtain (isKeyed_registryOf before) world connection _ _
      (Registry.find?_registry_obtain_of_ok hclient)
  rw [← hkeyed] at hread
  rw [Client.requests_labelValues] at hmem
  -- Only a request that can be sent is sent, and it is one for the URL that was read.
  by_cases hsends : ∃ url headers,
      client.Sends world (Client.valuesPlace (labelOf field)) [] url headers
  · obtain ⟨url, headers, hsends⟩ := hsends
    rw [Client.requests_get_of_sends hsends] at hmem
    have hurl := hsends.url_eq
    unfold Client.url at hurl
    rw [hread] at hurl
    cases hurl
    exact ⟨headers, Request.backend.inj (List.mem_singleton.1 hmem)⟩
  · simp only [not_exists] at hsends
    obtain ⟨error, herror⟩ := Client.get_of_not_sends hsends
    rw [herror] at hmem
    cases hmem

/-- A plain base URL that names a host alone. -/
def hostBase : Base :=
  { promBase with
    port := none
    segments := []
    port_le := nofun
    isPlain := nofun }

/-- The way to the backend behind this URL. -/
def hostConnection : Connection where
  url := "http://prom.test/"

/-- A label with a space, a colon and a character of two bytes stays a segment, and its values are
asked for at their place. -/
theorem directed_twoBytes :
    (fieldValues (registryOf []) listingWorld hostConnection "né: e" none 0 10).exchange.requests =
        [.backend { url := "http://prom.test/api/v1/label/n%C3%A9:%20e/values", headers := [] }] ∧
      IsSegment (counted "né: e".toList) ∧
      "http://prom.test/api/v1/label/n%C3%A9:%20e/values".toList =
        hostBase.origin ++ Path.written (hostBase.segments ++ valuesSegments "né: e".toList) := by
  have hrequests :
      (fieldValues (registryOf []) listingWorld hostConnection "né: e" none 0
        10).exchange.requests =
          [.backend
            { url := "http://prom.test/api/v1/label/n%C3%A9:%20e/values", headers := [] }] :=
    by decide +kernel
  have hsegment : IsSegment (counted "né: e".toList) :=
    ⟨List.all_iff_forall_prop.1 (by decide), by decide, by decide⟩
  have hbase : hostConnection.baseUrl.toList = hostBase.text := by decide +kernel
  obtain ⟨url, -, hdirected, hsent⟩ := directed [] listingWorld hbase "né: e" none 0 10
  obtain ⟨headers, hrequest⟩ := hsent _ (hrequests ▸ List.mem_singleton_self _)
  have hurl := congrArg (fun request => request.url.toList) hrequest
  exact ⟨hrequests, hsegment, hurl.trans (hdirected.text hsegment)⟩

/-- A label of dots and a mark leads to another place of the backend: the names of all labels are
asked for. -/
theorem requests_strayLabel :
    hostConnection.baseUrl.toList = hostBase.text ∧
      (fieldValues (registryOf []) listingWorld hostConnection "../labels#" none 0
        10).exchange.requests =
          [.backend { url := "http://prom.test/api/v1/labels", headers := [] }] ∧
      ¬∃ segment, "http://prom.test/api/v1/labels".toList = hostBase.origin ++
        Path.written (hostBase.segments ++ labelSegments ++ [segment, "values".toList]) := by
  refine ⟨by decide +kernel, by decide +kernel, ?_⟩
  rintro ⟨segment, heq⟩
  -- The path to the values of a label is longer than that to the labels.
  have hfront :
      (hostBase.origin ++ Path.written (hostBase.segments ++ labelSegments)).length = 29 := by
    decide
  have hback : (Path.written [segment, "values".toList]).length = segment.length + 8 := by
    simp [Path.written]
  have hlength := congrArg List.length heq
  rw [Path.written_append, ← List.append_assoc, List.length_append, hfront, hback] at hlength
  have hleft : "http://prom.test/api/v1/labels".toList.length = 30 := by decide
  omega

end MetricGateway.Gateway
