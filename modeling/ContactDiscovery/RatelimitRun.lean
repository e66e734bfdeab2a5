import ContactDiscovery.RatelimitState

/- Runs of `update` on one cell: any number of calls, each with arbitrary (replayed or forged)
   ciphertext, MAC, phones and RNG outcome, and any mix of failures. The nonce discipline of the
   whole run follows from what one call does to the cell (`update_advances`) and from what its result
   owes to the AES-GCM calls it made (`update_sealed`). -/

set_option autoImplicit false

namespace ContactDiscovery

structure UpdateInput where
  data : Bytes
  mac : AesGcmMac
  phones : List Phone
  rand : Option UInt32

namespace RatelimitState

variable (ffi : Ffi)

def run : RatelimitState → List UpdateInput → List (RatelimitState × Update)
  | _, [] => []
  | self, input :: rest =>
    let u := self.update ffi input.data input.mac input.phones input.rand
    (self, u) :: run u.state rest

end RatelimitState

end ContactDiscovery
