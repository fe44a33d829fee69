import LedgerLens.Host.Delimited
import LedgerLens.System.Digests

/-!
The encodings of an exported configuration. Every entry shows where it ends, so what was
exported can be read off the bytes that are hashed. The main result is `configExport_injective`.
-/

namespace LedgerLens

open Host

/-- The length of `Bytes` is a `u32`. -/
structure ConfigExportEntry where
  key : Symbol
  value : Bytes
  value_lt : value.length < u32Bound

structure PendingConfigExportEntry where
  key : Symbol
  value : Bytes
  proposalId : UInt64
  proposedAt : UInt64
  executableAfter : UInt64
  value_lt : value.length < u32Bound

section Encode

-- The XDR encoding of symbols is that of the host.
variable (encodeSymbol : Symbol → Bytes)

def encodeEntryKey (key : Symbol) : Bytes :=
  toBeBytes 4 (encodeSymbol key).length ++ encodeSymbol key

def encodeActiveEntries (entries : List ConfigExportEntry) : Bytes :=
  toBeBytes 4 entries.length ++ entries.flatMap fun entry =>
    encodeEntryKey encodeSymbol entry.key ++ (toBeBytes 4 entry.value.length ++ entry.value)

def encodePendingEntries (entries : List PendingConfigExportEntry) : Bytes :=
  toBeBytes 4 entries.length ++ entries.flatMap fun entry =>
    encodeEntryKey encodeSymbol entry.key ++ (toBeBytes 8 entry.proposalId.toNat ++
      (toBeBytes 8 entry.proposedAt.toNat ++ (toBeBytes 8 entry.executableAfter.toNat ++
        (toBeBytes 4 entry.value.length ++ entry.value))))

end Encode

section Decode

variable {encodeSymbol : Symbol → Bytes}

theorem delimited_u32 : Delimited fun n : { n : Nat // n < u32Bound } => toBeBytes 4 n.1 :=
  .of_width (fun n => length_toBeBytes 4 n.1) fun a b same =>
    Subtype.ext (toBeBytes_inj a.2 b.2 same)

theorem delimited_u64 : Delimited fun n : UInt64 => toBeBytes 8 n.toNat :=
  .of_width (fun n => length_toBeBytes 8 n.toNat) fun a b same =>
    UInt64.toNat_inj.mp (toBeBytes_inj a.toNat_lt b.toNat_lt same)

theorem delimited_value :
    Delimited fun value : { value : Bytes // value.length < u32Bound } =>
      toBeBytes 4 value.1.length ++ value.1 :=
  .lengthPrefixed delimited_u32

theorem delimited_key (injective : Function.Injective encodeSymbol)
    (short : ∀ key, (encodeSymbol key).length < u32Bound) :
    Delimited (encodeEntryKey encodeSymbol) := by
  have distinct : Function.Injective fun key : Symbol =>
      (⟨encodeSymbol key, short key⟩ : { value : Bytes // value.length < u32Bound }) :=
    fun a b same => injective (congrArg Subtype.val same)
  exact delimited_value.comp distinct

theorem encodeEntryKey_ne_nil (key : Symbol) : encodeEntryKey encodeSymbol key ≠ [] := by
  intro empty
  have := congrArg List.length empty
  rw [encodeEntryKey, List.length_append, length_toBeBytes, List.length_nil] at this
  omega

/-- The count in front is not needed to read the entries. -/
theorem entries_of_prefixed {α : Type} {encode : α → Bytes} (delimited : Delimited encode)
    (nonempty : ∀ a, encode a ≠ []) {xs ys : List α}
    (same : toBeBytes 4 xs.length ++ xs.flatMap encode =
      toBeBytes 4 ys.length ++ ys.flatMap encode) : xs = ys := by
  obtain ⟨_, rest⟩ := List.append_inj same (by rw [length_toBeBytes, length_toBeBytes])
  exact delimited.flatMap_injective nonempty rest

end Decode

/-- Whatever injective encoding of symbols the host has, the exported entries can be read off
their encodings. -/
theorem configExport_injective (encodeSymbol : Symbol → Bytes)
    (injective : Function.Injective encodeSymbol)
    (short : ∀ key, (encodeSymbol key).length < u32Bound) :
    Function.Injective (encodeActiveEntries encodeSymbol) ∧
      Function.Injective (encodePendingEntries encodeSymbol) := by
  have key := delimited_key injective short
  constructor
  · intro xs ys same
    have split : Function.Injective fun entry : ConfigExportEntry =>
        (entry.key, (⟨entry.value, entry.value_lt⟩ :
          { value : Bytes // value.length < u32Bound })) := by
      rintro ⟨key, value, _⟩ ⟨_, _, _⟩ ⟨⟩
      rfl
    exact entries_of_prefixed ((key.append delimited_value).comp split)
      (fun entry empty => encodeEntryKey_ne_nil entry.key (List.append_eq_nil_iff.mp empty).1) same
  · intro xs ys same
    have split : Function.Injective fun entry : PendingConfigExportEntry =>
        (entry.key, entry.proposalId, entry.proposedAt, entry.executableAfter,
          (⟨entry.value, entry.value_lt⟩ : { value : Bytes // value.length < u32Bound })) := by
      rintro ⟨key, value, _, _, _, _⟩ ⟨_, _, _, _, _, _⟩ ⟨⟩
      rfl
    have fields := delimited_u64.append (delimited_u64.append (delimited_u64.append
      delimited_value))
    exact entries_of_prefixed ((key.append fields).comp split)
      (fun entry empty => encodeEntryKey_ne_nil entry.key (List.append_eq_nil_iff.mp empty).1) same

/-- A symbol in XDR: its kind, its length and its text, padded to whole words. -/
def symbolXdr (key : Symbol) : Bytes :=
  [0, 0, 0, 15] ++ (toBeBytes 4 key.bytes.length ++
    (key.bytes ++ List.replicate ((4 - key.bytes.length % 4) % 4) 0))

theorem Symbol.length_bytes_le (key : Symbol) : key.bytes.length ≤ 32 := by
  have valid := key.valid
  rw [Bool.and_eq_true, decide_eq_true_eq] at valid
  rw [Symbol.bytes, List.length_map]
  exact valid.1

theorem symbolXdr_injective : Function.Injective symbolXdr := by
  intro a b same
  have short (key : Symbol) : key.bytes.length < u32Bound :=
    Nat.lt_of_le_of_lt key.length_bytes_le (by decide)
  obtain ⟨_, same⟩ := List.append_inj same rfl
  obtain ⟨length, same⟩ := List.append_inj same (by rw [length_toBeBytes, length_toBeBytes])
  have length := toBeBytes_inj (short a) (short b) length
  exact Symbol.bytes_inj (List.append_inj same length).1

theorem configExport_injective_xdr :
    Function.Injective (encodeActiveEntries symbolXdr) ∧
      Function.Injective (encodePendingEntries symbolXdr) :=
  configExport_injective symbolXdr symbolXdr_injective fun key => by
    have bound := key.length_bytes_le
    simp only [symbolXdr, List.length_append, length_toBeBytes, List.length_replicate,
      List.length_cons, List.length_nil, u32Bound]
    omega

end LedgerLens
