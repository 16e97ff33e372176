import Mathlib.Data.List.Nodup
import TradingStatus.Proofs.Json.Layouts
import TradingStatus.Proofs.Results
import TradingStatus.Proofs.Text.Utf8
import TradingStatus.Signing.Payload

/-! What is signed for some fields says what the fields are, and nothing else: the bytes do not depend
on the order in which the fields are given, and the fields are read back from them. -/

namespace TradingStatus.SignedFields

variable {f g : SignedFields}

/-! The order of the names -/

theorem precedes_iff {a b : String × String} : precedes a b = true ↔ a.1 ≤ b.1 := by
  rw [precedes, Bool.not_eq_true', decide_eq_false_iff_not]
  exact Iff.rfl

theorem sorted_perm (fields : SignedFields) : fields.sorted.Perm fields :=
  List.mergeSort_perm fields precedes

theorem pairwise_sorted (fields : SignedFields) : fields.sorted.Pairwise fun a b => a.1 ≤ b.1 := by
  have htrans (a b c : String × String) (hab : precedes a b = true) (hbc : precedes b c = true) :
      precedes a c = true :=
    precedes_iff.mpr (String.le_trans (precedes_iff.mp hab) (precedes_iff.mp hbc))
  have htotal (a b : String × String) : (precedes a b || precedes b a) = true := by
    rw [Bool.or_eq_true, precedes_iff, precedes_iff]
    exact String.le_total a.1 b.1
  exact (List.pairwise_mergeSort htrans htotal fields).imp precedes_iff.mp

/-- The order in which fields under different names are given does not matter. -/
theorem sorted_eq_of_perm (hf : (f.map Prod.fst).Nodup) (h : f.Perm g) : f.sorted = g.sorted := by
  have hperm : f.sorted.Perm g.sorted := (sorted_perm f).trans (h.trans (sorted_perm g).symm)
  refine hperm.eq_of_pairwise ?_ (pairwise_sorted f) (pairwise_sorted g)
  intro a b ha hb hab hba
  have ha : a ∈ f := (sorted_perm f).mem_iff.mp ha
  have hb : b ∈ f := h.mem_iff.mpr ((sorted_perm g).mem_iff.mp hb)
  exact List.inj_on_of_nodup_map hf ha hb (String.le_antisymm hab hba)

/-! Fields as a mapping -/

/-- Fields under different names are the same but for their order when every name has the same value
among them. -/
theorem perm_iff_lookup (hf : (f.map Prod.fst).Nodup) (hg : (g.map Prod.fst).Nodup) :
    f.Perm g ↔ ∀ name, f.lookup name = g.lookup name := by
  rw [List.perm_ext_iff_of_nodup (hf.of_map _) (hg.of_map _)]
  constructor
  · intro h name
    ext value
    rw [lookup_eq_some_iff_mem hf, lookup_eq_some_iff_mem hg, h]
  · rintro h ⟨name, value⟩
    rw [← lookup_eq_some_iff_mem hf, ← lookup_eq_some_iff_mem hg, h]

/-- The fields of some members are there when all of them are texts. -/
theorem ofMembers_eq_ok_iff {members : List (String × Json)} :
    ofMembers members = .ok f ↔ members = Json.texts f := by
  rw [ofMembers, mapM_eq_ok_iff]
  constructor
  · intro h
    induction h with
    | nil => rfl
    | @cons member field members fields hfield _ ih =>
      obtain ⟨name, value⟩ := member
      cases value with
      | str text =>
        obtain rfl := Except.ok.inj hfield
        rw [ih]
        rfl
      | null => cases hfield
      | bool value => cases hfield
      | int value => cases hfield
      | float value => cases hfield
      | arr items => cases hfield
      | obj members => cases hfield
  · rintro rfl
    induction f with
    | nil => exact .nil
    | cons field fields ih => exact .cons rfl ih

/-! What is signed -/

theorem nodup_sorted (hf : (f.map Prod.fst).Nodup) : (f.sorted.map Prod.fst).Nodup :=
  ((sorted_perm f).map Prod.fst).nodup_iff.mpr hf

theorem toJson_injective {f g : SignedFields} (h : f.toJson = g.toJson) : f = g := by
  have hmembers : Json.texts f = Json.texts g := Json.obj.inj h
  refine (List.map_inj_right ?_).mp hmembers
  rintro ⟨name, value⟩ ⟨name', value'⟩ heq
  simpa using heq

theorem read_payload (hf : (f.map Prod.fst).Nodup) : Json.read f.payload = .ok f.sorted.toJson :=
  Json.read_render (Json.isPlain_texts (nodup_sorted hf))

theorem decode_payloadBytes (fields : SignedFields) :
    Text.Utf8.decode fields.payloadBytes = .ok fields.payload :=
  Text.Utf8.decode_encode fields.payload

theorem payloadBytes_eq_iff_perm (hf : (f.map Prod.fst).Nodup) (hg : (g.map Prod.fst).Nodup) :
    f.payloadBytes = g.payloadBytes ↔ f.Perm g := by
  constructor
  · intro h
    have hpayload : f.payload = g.payload := by
      have hdecode := decode_payloadBytes f
      rw [h, decode_payloadBytes] at hdecode
      exact (Except.ok.inj hdecode).symm
    have hsorted : f.sorted = g.sorted := by
      have hread := read_payload hf
      rw [hpayload, read_payload hg] at hread
      exact (toJson_injective (Except.ok.inj hread)).symm
    exact (sorted_perm f).symm.trans (hsorted ▸ sorted_perm g)
  · intro h
    rw [payloadBytes, payloadBytes, payload, payload, sorted_eq_of_perm hf h]

/-- The bytes that are signed are the same for two mappings of names to texts exactly when every name
has the same text in both. Read as UTF-8 and then as JSON, they are an object with the fields as its
members, none of them lost, repeated or changed. -/
theorem payloadBytes_faithful (hf : (f.map Prod.fst).Nodup) (hg : (g.map Prod.fst).Nodup) :
    (f.payloadBytes = g.payloadBytes ↔ ∀ name, f.lookup name = g.lookup name) ∧
    ∃ text members, Text.Utf8.decode f.payloadBytes = .ok text ∧
      Json.read text = .ok (.obj members) ∧
      members.Perm (f.map fun (name, value) => (name, .str value)) := by
  refine ⟨?_, f.payload, Json.texts f.sorted, decode_payloadBytes f, read_payload hf, ?_⟩
  · rw [payloadBytes_eq_iff_perm hf hg, perm_iff_lookup hf hg]
  · exact (sorted_perm f).map _

/-- A reason with a quote, a backslash, two controls and characters beyond ASCII, signed before the
market and after it. -/
theorem payloadBytes_of_reordered_halt :
    let reasonFirst : SignedFields := [("reason", "\"\\\n\x01é😀"), ("mic", "XPAR")]
    let marketFirst : SignedFields := [("mic", "XPAR"), ("reason", "\"\\\n\x01é😀")]
    (reasonFirst.map Prod.fst).Nodup ∧ (marketFirst.map Prod.fst).Nodup ∧
      reasonFirst.payloadBytes = marketFirst.payloadBytes ∧
      ∃ text members, Text.Utf8.decode reasonFirst.payloadBytes = .ok text ∧
        Json.read text = .ok (.obj members) ∧
        members.Perm [("reason", .str "\"\\\n\x01é😀"), ("mic", .str "XPAR")] := by
  intro reasonFirst marketFirst
  have hreason : (reasonFirst.map Prod.fst).Nodup := by decide
  have hmarket : (marketFirst.map Prod.fst).Nodup := by decide
  have hsame : ∀ name, reasonFirst.lookup name = marketFirst.lookup name :=
    (perm_iff_lookup hreason hmarket).mp (List.Perm.swap _ _ _)
  obtain ⟨hbytes, hread⟩ := payloadBytes_faithful hreason hmarket
  exact ⟨hreason, hmarket, hbytes.mpr hsame, hread⟩

end TradingStatus.SignedFields
