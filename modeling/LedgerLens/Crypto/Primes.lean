import LedgerLens.Host.Primality

/-!
The two primes of Ed25519: that of the field, and the order of the group the base
point generates.
-/

namespace LedgerLens.Zk

open Host

/-- The prime of the field. -/
def p : Nat := 2 ^ 255 - 19

/-- The order of the base point. -/
def l : Nat := 2 ^ 252 + 27742317777372353535851937790883648493

/-- The small factors, which trial division finds prime. -/
def smallPrimes : List Nat :=
  [2, 3, 5, 7, 11, 13, 19, 23, 31, 41, 43, 47, 73, 107, 127, 223, 269, 307, 353, 1361, 2437,
    2851, 4153, 5879, 30703, 57467, 65147, 75707, 82163, 132049, 132667, 137849, 409477,
    430751, 531581, 569003, 1224481, 1923133, 8574133]

theorem smallPrimes_prime : ∀ q ∈ smallPrimes, q.Prime := by
  unfold smallPrimes
  norm_num

def fieldCertificates : List PrimeCertificate :=
  [ ⟨31757755568855353, 10, [2, 2, 2, 3, 31, 107, 223, 4153, 430751]⟩,
    ⟨2773320623, 5, [2, 2437, 569003]⟩,
    ⟨72106336199, 7, [2, 13, 2773320623]⟩,
    ⟨1919519569386763, 2, [2, 3, 7, 19, 47, 47, 127, 8574133]⟩,
    ⟨75445702479781427272750846543864801, 7, [2, 2, 2, 2, 2, 3, 3, 5, 5, 75707, 72106336199,
      1919519569386763]⟩,
    ⟨74058212732561358302231226437062788676166966415465897661863160754340907, 2, [2, 3, 353,
      57467, 132049, 1923133, 31757755568855353, 75445702479781427272750846543864801]⟩,
    ⟨p, 2, [2, 2, 3, 65147,
      74058212732561358302231226437062788676166966415465897661863160754340907]⟩]

def orderCertificates : List PrimeCertificate :=
  [ ⟨14741173, 2, [2, 2, 3, 3, 409477]⟩,
    ⟨58964693, 2, [2, 2, 14741173]⟩,
    ⟨3044861653679985063343, 5, [2, 3, 11, 30703, 82163, 132667, 137849]⟩,
    ⟨198211423230930754013084525763697, 5, [2, 2, 2, 2, 3, 23, 58964693,
      3044861653679985063343]⟩,
    ⟨292386187, 2, [2, 3, 3, 3, 3, 307, 5879]⟩,
    ⟨213441916511, 13, [2, 5, 73, 292386187]⟩,
    ⟨1257559732178653, 2, [2, 2, 3, 7, 23, 531581, 1224481]⟩,
    ⟨4434155615661930479, 17, [2, 41, 43, 1257559732178653]⟩,
    ⟨172054593956031949258510691, 2, [2, 5, 1361, 2851, 4434155615661930479]⟩,
    ⟨19757330305831588566944191468367130476339, 2, [2, 269, 213441916511,
      172054593956031949258510691]⟩,
    ⟨276602624281642239937218680557139826668747, 2, [2, 7,
      19757330305831588566944191468367130476339]⟩,
    ⟨l, 2, [2, 2, 3, 11, 198211423230930754013084525763697,
      276602624281642239937218680557139826668747]⟩]

theorem p_prime : p.Prime := by
  have checked : PrimeCertificate.checkAll smallPrimes fieldCertificates = true := by
    decide +kernel
  exact PrimeCertificate.checkAll_prime smallPrimes_prime checked _
    (List.getLast_mem (List.cons_ne_nil _ _))

theorem l_prime : l.Prime := by
  have checked : PrimeCertificate.checkAll smallPrimes orderCertificates = true := by
    decide +kernel
  exact PrimeCertificate.checkAll_prime smallPrimes_prime checked _
    (List.getLast_mem (List.cons_ne_nil _ _))

instance : Fact p.Prime := ⟨p_prime⟩

instance : Fact l.Prime := ⟨l_prime⟩

end LedgerLens.Zk
