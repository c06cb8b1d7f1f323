import Macdack.Library.Outcome
import Macdack.Library.Buffer
import Macdack.Library.OptionStream
import Macdack.Library.Fragments
import Macdack.Library.Masks
import Macdack.Library.Calls
import Macdack.Library.Machine
import Macdack.Library.Directory
import Macdack.Library.FileCalls
import Macdack.Library.Labels
import Macdack.Library.Expiry
import Macdack.Library.OptionWalk
import Macdack.Library.LogText
import Macdack.Library.Tally
import Macdack.Library.Samples
import Macdack.Text
import Macdack.Address
import Macdack.Config
import Macdack.Clients
import Macdack.MacText
import Macdack.Subnet
import Macdack.Dhcp.Packet
import Macdack.Dhcp.Stage
import Macdack.Dhcp.Detection
import Macdack.Dhcp.Layouts
import Macdack.Dhcp.Reply
import Macdack.Dhcp.Contents
import Macdack.Dhcp.Sizes
import Macdack.Dhcp.Header
import Macdack.Dhcp.Serve
import Macdack.Dhcp.Relay
import Macdack.Dhcp.Decoded
import Macdack.Dhcp.Exchange
import Macdack.Dhcp.Routes
import Macdack.Dhcp.Dump
import Macdack.Dhcp.DumpLines
import Macdack.Dhcp.Reachable
import Macdack.Dhcp.Boot
import Macdack.Dhcp.Inert
import Macdack.Dhcp.Decision
import Macdack.Dhcp.Fields
import Macdack.Runtime.Persist
import Macdack.Runtime.Sync
import Macdack.ClientTable
import Macdack.Runtime.Agreement
import Macdack.Runtime.Failures
import Macdack.Runtime.Currency
import Macdack.Runtime.Recovery
import Macdack.Runtime.Restart
import Macdack.Runtime.Retry
import Macdack.Runtime.Status
import Macdack.Runtime.Metrics
import Macdack.Runtime.Exposition
import Macdack.Dhcp.DumpOptions
import Macdack.Dhcp.Traffic
import Macdack.Runtime.Steady
import Macdack.Dhcp.Accounting
import Macdack.Runtime.Service
import Macdack.Runtime.Assignments
import Macdack.Runtime.Report
import Macdack.Runtime.Health
import Macdack.Arguments
import Macdack.Daemon
import Macdack.Runtime.Series
import Macdack.FieldText
import Macdack.Hostname
import Macdack.RowText
import Macdack.Settings
import Macdack.Dhcp.SentDump
