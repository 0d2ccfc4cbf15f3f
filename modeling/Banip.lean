import Banip.Lib.CString
import Banip.Lib.Numeral
import Banip.Lib.Inet
import Banip.Lib.ByteOrder
import Banip.Lib.Runs
import Banip.Lib.Fifo
import Banip.Lib.Registry
import Banip.Lib.MessageQueue
import Banip.Lib.Files
import Banip.Lib.Ipc
import Banip.Lib.Shell
import Banip.Lib.Printf
import Banip.Lib.Cleanup
import Banip.Lib.Netfilter
import Banip.Error
import Banip.Queue.Interface
import Banip.Queue.Posix
import Banip.Queue.Attributes
import Banip.Queue.Ownership
import Banip.Queue.Delivery
import Banip.Queue.SystemV
import Banip.Queue.KeyFile
import Banip.Queue.KeyName
import Banip.Queue.Isolation
import Banip.Queue.Sizes
import Banip.Queue.Residue
import Banip.Queue.Refinement
import Banip.Queue.Resume
import Banip.Queue.Failure
import Banip.Queue.Rendezvous
import Banip.Parse
import Banip.Number
import Banip.Grammar
import Banip.Canonical
import Banip.Engine.Pf
import Banip.Engine
import Banip.Engine.Command
import Banip.Engine.Inert
import Banip.Engine.Npf
import Banip.Engine.Coverage
import Banip.Engine.Ipset
import Banip.Apache.Module
import Banip.Apache.Isolation
import Banip.Apache.Config
import Banip.Apache.Rules
import Banip.Apache.Merge
import Banip.Daemon.Loop
import Banip.Daemon.Handle
import Banip.Daemon.Main
import Banip.Daemon.Restart
import Banip.Daemon.PidFile
import Banip.Lib.Heap
import Banip.Lib.Interrupt
import Banip.Lib.Cell
import Banip.Daemon.Teardown
import Banip.Daemon.Reentry
import Banip.Daemon.Release
import Banip.Daemon.Lifetime
import Banip.Daemon.Context
import Banip.Daemon.Survival
import Banip.Lib.StateTable
import Banip.Daemon.Enforcement
import Banip.Lib.Stdio
import Banip.Daemon.Log
import Banip.Daemon.Journal
import Banip.Daemon.Rotation
import Banip.Client.Cli
import Banip.Client.Vmod
import Banip.Service.Turn
import Banip.Service.World
