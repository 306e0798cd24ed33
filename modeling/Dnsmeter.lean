import Dnsmeter.Lib.Block
import Dnsmeter.Lib.OnesComp
import Dnsmeter.Lib.Datagram
import Dnsmeter.Lib.Run
import Dnsmeter.Base
import Dnsmeter.Query
import Dnsmeter.Packet
import Dnsmeter.Proof.Checksum
import Dnsmeter.Proof.PacketInv
import Dnsmeter.Lib.Bpf
import Dnsmeter.Receiver
import Dnsmeter.PayloadFile
import Dnsmeter.Proof.Rtt
import Dnsmeter.SenderThread
import Dnsmeter.Lib.InsertMap
import Dnsmeter.SystemStat
import Dnsmeter.Sender
import Dnsmeter.Proof.Filter
import Dnsmeter.Lib.Tally
import Dnsmeter.Proof.Counters
import Dnsmeter.Proof.NetStat
import Dnsmeter.Proof.Thread
import Dnsmeter.Proof.Rate
import Dnsmeter.Lib.Turns
import Dnsmeter.Proof.RoundRobin
import Dnsmeter.Proof.Accounting
import Dnsmeter.Proof.Wire
import Dnsmeter.Lib.Pacing
import Dnsmeter.Proof.Pacing
import Dnsmeter.Lib.Extrema
import Dnsmeter.Proof.RttStats
import Dnsmeter.Proof.OwnBytes
import Dnsmeter.Proof.PcapFile
import Dnsmeter.Proof.Bounds
import Dnsmeter.BpfReceiver
import Dnsmeter.Lib.Align
import Dnsmeter.Proof.BpfRecords
import Dnsmeter.Lib.Snapshot
import Dnsmeter.LiveStats
import Dnsmeter.Proof.LiveStats
import Dnsmeter.CommandLine
import Dnsmeter.Proof.Parameters
import Dnsmeter.Proof.PcapSource
import Dnsmeter.Lib.Decimal
import Dnsmeter.Proof.RateRange
import Dnsmeter.Proof.BpfModes
import Dnsmeter.Lib.Decoder
import Dnsmeter.Lib.Dns
import Dnsmeter.Proof.Opt
import Dnsmeter.Lib.Share
import Dnsmeter.Proof.TextFile
import Dnsmeter.Proof.DnssecShare
import Dnsmeter.Proof.NetDev
import Dnsmeter.Proof.Delta
import Dnsmeter.Proof.ForeignId
import Dnsmeter.Proof.InCksum
import Dnsmeter.Proof.Loss
import Dnsmeter.Proof.TimedRun
import Dnsmeter.Proof.EndToEnd
import Dnsmeter.Proof.MainLoop
import Dnsmeter.Proof.ZeroCopy
import Dnsmeter.Proof.Echo
import Dnsmeter.Proof.CsvFile
import Dnsmeter.Proof.Platforms
import Dnsmeter.Proof.Awaiting
import Dnsmeter.Proof.Unlimited
import Dnsmeter.Proof.RateKept
