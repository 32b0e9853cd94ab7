import CompilePlayground.Message
import CompilePlayground.Proofs.Json.Records

namespace CompilePlayground

open Json Text

/-!
# Messages survive the wire

A message that is written is read back as it was, and a message that was read from any text, however
it was spelled there, is written so that it is read as the same message again.
-/

/-- What it takes for the values of a type to travel: `Valid` values are read back from what is
written for them, and a `Plain` value that was read from any text is written as a text that is read
as the same value, and is written as the same text. -/
structure RoundTrips {α : Type}
    (write : α → String)
    (read : Bytes → Except Fault α)
    (Valid Plain : α → Prop) : Prop where
  back : ∀ value, Valid value → read (Utf8.encode (write value)) = .ok value
  stable : ∀ text value, read text = .ok value → Plain value →
    ∃ again, read (Utf8.encode (write value)) = .ok again ∧ again = value ∧
      write again = write value

/-- If what is read is valid, it is enough that valid values are read back. -/
theorem RoundTrips.of_back
    {α : Type}
    {write : α → String}
    {read : Bytes → Except Fault α}
    {Valid Plain : α → Prop}
    (back : ∀ value, Valid value → read (Utf8.encode (write value)) = .ok value)
    (valid : ∀ text value, read text = .ok value → Plain value → Valid value) :
    RoundTrips write read Valid Plain where
  back := back
  stable text value reads plain :=
    ⟨value, back value (valid text value reads plain), rfl, rfl⟩

namespace ExtensionRequest

theorem takes_kind
    {request : ExtensionRequest}
    (fits : request.argument.Fits 126)
    (whole : request.argument.IsWhole) :
    Takes (kind.read ⟨none, none⟩) request.toJson.bytes
      ⟨some request.action, some request.argument⟩ := by
  apply RecordKind.takes_read
  refine .next (by simp [kind]; rfl) rfl (Takes.andThen (takes_readText _) _) ?_
  exact .next (by simp [kind]; rfl) rfl (Takes.andThen (takes_readValue fits whole) _) (.done rfl)

/-- The argument of a request that was read is in order and not nested too deeply. -/
theorem fits_of_read
    {text : Bytes}
    {request : ExtensionRequest}
    (reads : read text = .ok request) :
    request.argument.Fits 126 := by
  have keeps : kind.Keeps fun parts => ∀ argument, parts.argument? = some argument →
      argument.Fits 126 := by
    intro field member cursor set later readsField parts held
    simp only [kind, List.mem_cons, List.not_mem_nil, or_false] at member
    rcases member with rfl | rfl
    · obtain ⟨_, _, _, same⟩ := exists_of_andThen readsField
      cases same
      exact held
    · obtain ⟨argument, _, readsArgument, same⟩ := exists_of_andThen readsField
      cases same
      rintro _ ⟨⟩
      exact fits_of_readValue readsArgument
  unfold read at reads
  cases whole : readWhole (kind.read ⟨none, none⟩) text with
  | error fault =>
      rw [whole] at reads
      cases reads
  | ok parts =>
      rw [whole] at reads
      cases reads
      obtain ⟨later, readsParts⟩ := exists_of_readWhole whole
      have held := RecordKind.holds_of_read keeps (by rintro _ ⟨⟩) readsParts
      cases argument? : parts.argument? with
      | none =>
          rw [ofParts, argument?]
          exact .null
      | some argument =>
          rw [ofParts, argument?]
          exact held argument argument?

theorem roundTrips :
    RoundTrips write read
      (fun request => request.argument.Fits 126 ∧ request.argument.IsWhole)
      (fun request => request.argument.IsWhole) := by
  refine .of_back (fun request valid => ?_) fun text request reads plain =>
    ⟨fits_of_read reads, plain⟩
  have whole := readWhole_of_takes (takes_kind valid.1 valid.2)
  change (readWhole _ request.toJson.bytes).map ofParts = _
  rw [whole]
  rfl

end ExtensionRequest

namespace ExtensionResponse

theorem takes_kind (response : ExtensionResponse) :
    ∃ parts, ofParts parts = response ∧
      Takes (kind.read ⟨none, none⟩) response.toJson.bytes parts := by
  obtain ⟨success, error?⟩ := response
  cases error? with
  | none =>
      refine ⟨⟨some success, none⟩, rfl, RecordKind.takes_read ?_⟩
      exact .next (by simp [kind]; rfl) rfl (Takes.andThen (takes_readBoolean _) _) (.done rfl)
  | some error =>
      refine ⟨⟨some success, some (some error)⟩, rfl, RecordKind.takes_read ?_⟩
      refine .next (by simp [kind]; rfl) rfl (Takes.andThen (takes_readBoolean _) _) ?_
      exact .next (by simp [kind]; rfl) rfl (Takes.andThen (takes_readText? (some error)) _) (.done rfl)

theorem roundTrips : RoundTrips write read (fun _ => True) (fun _ => True) := by
  refine .of_back (fun response _ => ?_) fun _ _ _ _ => trivial
  obtain ⟨parts, same, takes⟩ := takes_kind response
  have whole := readWhole_of_takes takes
  change (readWhole _ response.toJson.bytes).map ofParts = _
  rw [whole, ← same]
  rfl

end ExtensionResponse

namespace LinkItem

theorem takes_kind (item : LinkItem) :
    Takes (kind.read ⟨none, none⟩) item.toJson.bytes ⟨some item.title, some item.href?⟩ := by
  apply RecordKind.takes_read
  refine .next (by simp [kind]; rfl) rfl (Takes.andThen (takes_readText _) _) ?_
  exact .next (by simp [kind]; rfl) rfl (Takes.andThen (takes_readText? _) _) (.done rfl)

theorem roundTrips : RoundTrips write read (fun _ => True) (fun _ => True) := by
  refine .of_back (fun item _ => ?_) fun _ _ _ _ => trivial
  have whole := readWhole_of_takes (takes_kind item)
  change (readWhole _ item.toJson.bytes).map ofParts = _
  rw [whole]
  rfl

theorem roundTrips_list : RoundTrips writeList readList (fun _ => True) (fun _ => True) := by
  refine .of_back (fun items _ => ?_) fun _ _ _ _ => trivial
  let written (item : LinkItem) : Json.Value × Parts :=
    (item.toJson, ⟨some item.title, some item.href?⟩)
  have each : ∀ item ∈ items.map written,
      Leads item.1.bytes ∧ Takes (kind.read ⟨none, none⟩) item.1.bytes item.2 := by
    intro part member
    obtain ⟨item, _, rfl⟩ := List.mem_map.mp member
    exact ⟨⟨_, _, Value.bytes_object _, by decide⟩, takes_kind item⟩
  have whole := readWhole_of_takes (takes_readList each)
  rw [List.map_map, List.map_map] at whole
  change (readWhole _ (Json.Value.list (items.map toJson)).bytes).map _ = _
  rw [show items.map toJson = items.map ((·.1) ∘ written) from rfl, whole]
  simp only [Except.map, List.map_map]
  exact congrArg Except.ok (List.map_id _)

end LinkItem

/-- Requests whose arguments are nested at most 126 deep and hold whole numbers, answers, links and
lists of links survive the wire. -/
theorem messages_roundTrip :
    RoundTrips ExtensionRequest.write ExtensionRequest.read
      (fun request => request.argument.Fits 126 ∧ request.argument.IsWhole)
      (fun request => request.argument.IsWhole) ∧
    RoundTrips ExtensionResponse.write ExtensionResponse.read (fun _ => True) (fun _ => True) ∧
    RoundTrips LinkItem.write LinkItem.read (fun _ => True) (fun _ => True) ∧
    RoundTrips LinkItem.writeList LinkItem.readList (fun _ => True) (fun _ => True) :=
  ⟨ExtensionRequest.roundTrips, ExtensionResponse.roundTrips, LinkItem.roundTrips,
    LinkItem.roundTrips_list⟩

/-- An action that has to be escaped, with a list of the least and the greatest whole number inside
an object. -/
def Sample.nestedRequest : ExtensionRequest where
  action := "say \"\\\u0001é\""
  argument := .object [("list", .list
    [.number (.integer (-9223372036854775808)), .number (.integer 18446744073709551615)])]

theorem messages_roundTrip_of_nestedRequest :
    ExtensionRequest.read (Utf8.encode Sample.nestedRequest.write) = .ok Sample.nestedRequest := by
  refine messages_roundTrip.1.back Sample.nestedRequest ⟨?_, ?_⟩
  · refine .object (List.pairwise_singleton _ _) fun member inside => ?_
    cases List.mem_singleton.mp inside
    refine .list fun item member => ?_
    simp only [List.mem_cons, List.not_mem_nil, or_false] at member
    rcases member with rfl | rfl
    · exact .number _
    · exact .number _
  · intro number holds
    cases holds with
    | member inside holds =>
        cases List.mem_singleton.mp inside
        cases holds with
        | item member holds =>
            simp only [List.mem_cons, List.not_mem_nil, or_false] at member
            rcases member with rfl | rfl
            all_goals
              cases holds
              exact ⟨by decide, by decide⟩

end CompilePlayground
