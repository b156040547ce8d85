import SnapshotParser.Vsr.Accounts
import Mathlib.Data.String.Basic
import Mathlib.Data.List.Forall2

namespace SnapshotParser

open Vsr

/-! # Filters

`Filters::load` reads the filters file: two lists of `Pubkey`s, each written as one text
with the keys separated by commas, and the VSR registrar as base64.  `split_pubkeys` splits
on every comma, as `str::split` does, keeping empty pieces, and parses each piece with
`Pubkey::from_str`; `collect` stops at the first piece that is no key.

Reading the JSON file is left out: `load` starts from its three texts.  `Pubkey::from_str`
and the base64 engine are parameters, each with the text of its error.
-/

structure FiltersData where
  accountOwners : String
  accountMints : String
  vsrRegistrarData : String
deriving DecidableEq, Repr

structure Filters where
  accountOwners : List Pubkey
  accountMints : List Pubkey
  vsrRegistrarData : List UInt8

namespace Filters

/-- The error of `split_pubkeys`: the piece that is no key, the name of its list, and the
text of `Pubkey::from_str`'s error. -/
structure SplitError where
  piece : String
  name : String
  cause : String
deriving DecidableEq, Repr

def SplitError.message (e : SplitError) : String :=
  "Could not parse pubkey from \x27" ++ e.piece ++ "\x27 of name " ++ e.name ++ ": " ++ e.cause

inductive LoadError
  | pubkeys (error : SplitError)
  | base64 (cause : String)
deriving DecidableEq, Repr

section Load

variable (fromStr : String → Except String Pubkey)

def splitPubkeys (pubkeysString name : String) : Except SplitError (List Pubkey) :=
  (pubkeysString.split (· = ',')).mapM fun s => (fromStr s).mapError fun e => ⟨s, name, e⟩

/-- `Filters::load`, after the file is read. -/
def load (decode : String → Except String (List UInt8)) (data : FiltersData) :
    Except LoadError Filters := do
  let accountOwners ← (splitPubkeys fromStr data.accountOwners "account_owners").mapError .pubkeys
  let accountMints ← (splitPubkeys fromStr data.accountMints "account_mints").mapError .pubkeys
  let vsrRegistrarData ← (decode data.vsrRegistrarData).mapError .base64
  pure { accountOwners, accountMints, vsrRegistrarData }

end Load

/-! ## `collect` into a `Result` -/

section Collect

theorem mapError_eq_ok {ε ε' β : Type} (g : ε → ε') (x : Except ε β) (b : β) :
    x.mapError g = .ok b ↔ x = .ok b := by
  cases x <;> simp [Except.mapError]

theorem mapError_eq_error {ε ε' β : Type} (g : ε → ε') (x : Except ε β) (e' : ε') :
    x.mapError g = .error e' ↔ ∃ e, x = .error e ∧ g e = e' := by
  cases x <;> simp [Except.mapError]

theorem bind_eq_ok {ε α β : Type} (x : Except ε α) (g : α → Except ε β) (b : β) :
    x >>= g = .ok b ↔ ∃ a, x = .ok a ∧ g a = .ok b := by
  cases x <;> simp [bind, Except.bind]

variable {α β ε : Type} (f : α → Except ε β)

theorem mapM_eq_ok_iff (xs : List α) (ys : List β) :
    xs.mapM f = .ok ys ↔ List.Forall₂ (fun x y => f x = .ok y) xs ys := by
  induction xs generalizing ys with
  | nil => simp only [List.mapM_nil]; cases ys <;> simp [pure, Except.pure]
  | cons x xs ih =>
    simp only [List.mapM_cons, bind_eq_ok, ih]
    cases ys <;> simp [pure, Except.pure]

theorem mapM_eq_error {xs : List α} {e : ε} (failed : xs.mapM f = .error e) :
    ∃ pre x post, xs = pre ++ x :: post ∧ (∀ y ∈ pre, ∃ b, f y = .ok b) ∧ f x = .error e := by
  induction xs with
  | nil => simp only [List.mapM_nil] at failed; cases failed
  | cons x xs ih =>
    cases hx : f x with
    | error e' =>
      simp only [List.mapM_cons, hx, bind, Except.bind, Except.error.injEq] at failed
      exact ⟨[], x, xs, rfl, by simp, failed ▸ hx⟩
    | ok b =>
      cases rest : xs.mapM f <;>
        simp only [List.mapM_cons, hx, rest, bind, Except.bind, pure, Except.pure,
          reduceCtorEq, Except.error.injEq] at failed
      obtain ⟨pre, y, post, rfl, parsed, bad⟩ := ih (failed ▸ rest)
      refine ⟨x :: pre, y, post, rfl, ?_, bad⟩
      rintro z (_ | ⟨_, mem⟩)
      exacts [⟨b, hx⟩, parsed z mem]

end Collect

/-! ## Splitting on commas -/

theorem intercalate_go_data (s : String) (xs : List String) (acc : String) :
    (String.intercalate.go acc s xs).data = acc.data ++ xs.flatMap (fun x => s.data ++ x.data) := by
  induction xs generalizing acc with
  | nil => simp [String.intercalate.go]
  | cons x xs ih => simp [String.intercalate.go, ih]

theorem splitOnP_comma (first : List Char) (rest : List String) (noComma : ',' ∉ first)
    (restNoComma : ∀ x ∈ rest, ',' ∉ x.data) :
    (first ++ rest.flatMap (fun x => ',' :: x.data)).splitOnP (· = ',') =
      first :: rest.map String.data := by
  induction rest generalizing first with
  | nil =>
    simpa using List.splitOnP_eq_single _ first
      fun c mem same => noComma ((of_decide_eq_true same : c = ',') ▸ mem)
  | cons x rest ih =>
    have tail := ih x.data (restNoComma x (List.mem_cons_self _ _))
      fun y mem => restNoComma y (List.mem_cons_of_mem _ mem)
    rw [List.flatMap_cons, List.cons_append, List.splitOnP_first _ _
      (fun c mem same => noComma ((of_decide_eq_true same : c = ',') ▸ mem)) ',' (by simp), tail,
      List.map_cons]

theorem split_intercalate_comma (first : String) (rest : List String)
    (noComma : ∀ x ∈ first :: rest, ',' ∉ x.data) :
    (",".intercalate (first :: rest)).split (· = ',') = first :: rest := by
  have joined : (",".intercalate (first :: rest)).data =
      first.data ++ rest.flatMap (fun x => ',' :: x.data) :=
    intercalate_go_data "," rest first
  rw [String.split_of_valid, joined, splitOnP_comma _ _ (noComma first (List.mem_cons_self _ _))
    fun x mem => noComma x (List.mem_cons_of_mem _ mem)]
  simp [List.map_map, Function.comp_def]

theorem split_ne_nil (s : String) (p : Char → Bool) : s.split p ≠ [] := by
  rw [String.split_of_valid]
  simpa using List.splitOnP_ne_nil p s.data

section Load

variable (fromStr : String → Except String Pubkey) (display : Pubkey → String)

/-- `split_pubkeys` gives one key for every piece between commas, empty pieces included:
it succeeds exactly when every piece parses, with the pieces' keys in order. -/
theorem splitPubkeys_eq_ok_iff (pubkeysString name : String) (keys : List Pubkey) :
    splitPubkeys fromStr pubkeysString name = .ok keys ↔
      List.Forall₂ (fun s k => fromStr s = .ok k) (pubkeysString.split (· = ',')) keys := by
  simp only [splitPubkeys, mapM_eq_ok_iff, mapError_eq_ok]

theorem splitPubkeys_eq_error {pubkeysString name : String} {e : SplitError}
    (failed : splitPubkeys fromStr pubkeysString name = .error e) :
    ∃ pre post, pubkeysString.split (· = ',') = pre ++ e.piece :: post ∧
      (∀ s ∈ pre, ∃ k, fromStr s = .ok k) ∧ fromStr e.piece = .error e.cause ∧ e.name = name := by
  obtain ⟨pre, s, post, split, parsed, bad⟩ := mapM_eq_error _ failed
  obtain ⟨cause, parseError, rfl⟩ := (mapError_eq_error _ _ _).mp bad
  exact ⟨pre, post, split, fun s mem => by simpa [mapError_eq_ok] using parsed s mem,
    parseError, rfl⟩

def readDecimal (s : String) : Except String Pubkey :=
  if s.data ≠ [] ∧ s.data.all Char.isDigit then
    let n := s.data.foldl (fun n c => 10 * n + (c.toNat - '0'.toNat)) 0
    if lt : n < 2 ^ 256 then .ok ⟨n, lt⟩ else .error "String is the wrong size"
  else .error "Invalid Base58 string"

def decimalText (k : Pubkey) : String := ⟨Nat.toDigits 10 k.val⟩

def base64Ab (s : String) : Except String (List UInt8) :=
  if s = "AQI=" then .ok [1, 2] else .error "Invalid padding"

/-- No text gives an empty list of keys: an empty text is one empty piece, which has to
parse. -/
theorem splitPubkeys_ne_nil {pubkeysString name : String} {keys : List Pubkey}
    (read : splitPubkeys fromStr pubkeysString name = .ok keys) : keys ≠ [] := by
  have lengths := ((splitPubkeys_eq_ok_iff fromStr _ _ _).mp read).length_eq
  rintro rfl
  exact split_ne_nil pubkeysString _ (List.length_eq_zero.mp lengths)

theorem decimalKeys_ne_nil :
    splitPubkeys readDecimal "7,12" "account_mints" = .ok [⟨7, by decide⟩, ⟨12, by decide⟩] ∧
      [(⟨7, by decide⟩ : Pubkey), ⟨12, by decide⟩] ≠ [] :=
  have read : splitPubkeys readDecimal "7,12" "account_mints" =
      .ok [⟨7, by decide⟩, ⟨12, by decide⟩] := by
    rw [splitPubkeys, String.split_of_valid]
    rfl
  ⟨read, splitPubkeys_ne_nil readDecimal read⟩

def renderPubkeys (keys : List Pubkey) : String :=
  ",".intercalate (keys.map display)

theorem splitPubkeys_renderPubkeys (name : String) {keys : List Pubkey} (nonempty : keys ≠ [])
    (readable : ∀ k ∈ keys, ',' ∉ (display k).data ∧ fromStr (display k) = .ok k) :
    splitPubkeys fromStr (renderPubkeys display keys) name = .ok keys := by
  obtain ⟨first, rest, rfl⟩ := List.exists_cons_of_ne_nil nonempty
  rw [splitPubkeys_eq_ok_iff, renderPubkeys, List.map_cons,
    split_intercalate_comma _ _ (by simpa using fun k mem => (readable k mem).1),
    ← List.map_cons, List.forall₂_map_left_iff, List.forall₂_same]
  exact fun k mem => (readable k mem).2

/-- Filters written as the file lists them load back, when each list has a key, every key's
text has no comma and reads back as the key, and the registrar's text decodes. -/
theorem load_renderPubkeys (decode : String → Except String (List UInt8))
    {accountOwners accountMints : List Pubkey} {registrarText : String}
    {vsrRegistrarData : List UInt8} (owners : accountOwners ≠ []) (mints : accountMints ≠ [])
    (readable : ∀ k ∈ accountOwners ++ accountMints,
      ',' ∉ (display k).data ∧ fromStr (display k) = .ok k)
    (decoded : decode registrarText = .ok vsrRegistrarData) :
    load fromStr decode ⟨renderPubkeys display accountOwners,
        renderPubkeys display accountMints, registrarText⟩ =
      .ok ⟨accountOwners, accountMints, vsrRegistrarData⟩ := by
  rw [load, splitPubkeys_renderPubkeys _ _ _ owners
      fun k mem => readable k (List.mem_append_left _ mem),
    splitPubkeys_renderPubkeys _ _ _ mints fun k mem => readable k (List.mem_append_right _ mem),
    decoded]
  rfl

theorem decimal_load_renderPubkeys :
    load readDecimal base64Ab ⟨renderPubkeys decimalText [⟨7, by decide⟩, ⟨12, by decide⟩],
        renderPubkeys decimalText [⟨3, by decide⟩], "AQI="⟩ =
      .ok ⟨[⟨7, by decide⟩, ⟨12, by decide⟩], [⟨3, by decide⟩], [1, 2]⟩ :=
  load_renderPubkeys readDecimal decimalText base64Ab (by simp) (by simp)
    (by
      intro k mem
      simp only [List.cons_append, List.nil_append, List.mem_cons, List.not_mem_nil,
        or_false] at mem
      rcases mem with rfl | rfl | rfl <;> exact ⟨by decide, rfl⟩)
    rfl

/-- Every key error of `Filters::load` names the list whose text holds the piece, and the
piece is no key. -/
theorem load_pubkeys_error (decode : String → Except String (List UInt8)) {data : FiltersData}
    {e : SplitError} (failed : load fromStr decode data = .error (.pubkeys e)) :
    (e.name = "account_owners" ∧ e.piece ∈ data.accountOwners.split (· = ',') ∨
      e.name = "account_mints" ∧ e.piece ∈ data.accountMints.split (· = ',')) ∧
      fromStr e.piece = .error e.cause := by
  unfold load at failed
  cases owners : splitPubkeys fromStr data.accountOwners "account_owners" with
  | error ownersError =>
    simp only [owners, Except.mapError, bind, Except.bind, Except.error.injEq,
      LoadError.pubkeys.injEq] at failed
    obtain ⟨pre, post, split, -, bad, named⟩ := splitPubkeys_eq_error fromStr (failed ▸ owners)
    exact ⟨.inl ⟨named, by simp [split]⟩, bad⟩
  | ok accountOwners =>
    cases mints : splitPubkeys fromStr data.accountMints "account_mints" with
    | error mintsError =>
      simp only [owners, mints, Except.mapError, bind, Except.bind, Except.error.injEq,
        LoadError.pubkeys.injEq] at failed
      obtain ⟨pre, post, split, -, bad, named⟩ := splitPubkeys_eq_error fromStr (failed ▸ mints)
      exact ⟨.inr ⟨named, by simp [split]⟩, bad⟩
    | ok accountMints =>
      cases decoded : decode data.vsrRegistrarData <;>
        simp [owners, mints, decoded, Except.mapError, bind, Except.bind, pure, Except.pure] at failed

end Load

end Filters

end SnapshotParser
