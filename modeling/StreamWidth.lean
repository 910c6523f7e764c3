import StreamWidth.Main
import StreamWidth.Proofs.Accounting
import StreamWidth.Proofs.Artifacts
import StreamWidth.Proofs.Counting
import StreamWidth.Proofs.Exchange
import StreamWidth.Proofs.Histories
import StreamWidth.Proofs.Kernels
import StreamWidth.Proofs.Layers
import StreamWidth.Proofs.LongIntegers
import StreamWidth.Proofs.Padding
import StreamWidth.Proofs.Reading
import StreamWidth.Proofs.Rechunking
import StreamWidth.Proofs.Records
import StreamWidth.Proofs.Residues
import StreamWidth.Proofs.Statistics
import StreamWidth.Proofs.Storage
import StreamWidth.Proofs.Streams
import StreamWidth.Proofs.Tables
import StreamWidth.Simulation.StandIn
