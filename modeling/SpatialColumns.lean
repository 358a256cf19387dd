import SpatialColumns.Binary64
import SpatialColumns.Column.Fit
import SpatialColumns.Json.Reader
import SpatialColumns.Json.Spatial
import SpatialColumns.Proofs.BatchBuilder.Accounting
import SpatialColumns.Proofs.BatchBuilder.Batching
import SpatialColumns.Proofs.BatchBuilder.Encoding
import SpatialColumns.Proofs.BatchBuilder.Filling
import SpatialColumns.Proofs.BatchBuilder.Lifecycle
import SpatialColumns.Proofs.BatchBuilder.Reservation
import SpatialColumns.Proofs.Codec.Component
import SpatialColumns.Proofs.Codec.Lawful
import SpatialColumns.Proofs.Codec.Restored
import SpatialColumns.Proofs.Codec.Rotation
import SpatialColumns.Proofs.Codec.RoundTrip
import SpatialColumns.Proofs.Codec.Sealing
import SpatialColumns.Proofs.Codec.Sound
import SpatialColumns.Proofs.Codec.StructLayout
import SpatialColumns.Proofs.Codec.Transform
import SpatialColumns.Proofs.Codec.UnionLayout
import SpatialColumns.Proofs.Codec.Vector
import SpatialColumns.Proofs.Column.DenseUnion
import SpatialColumns.Proofs.Column.FixedSizeList
import SpatialColumns.Proofs.Column.Restore
import SpatialColumns.Proofs.Column.Rows
import SpatialColumns.Proofs.Column.Slice
import SpatialColumns.Proofs.Column.Struct
import SpatialColumns.Proofs.Column.UnionDraft
import SpatialColumns.Proofs.Decimal
import SpatialColumns.Proofs.Error.Layers
import SpatialColumns.Proofs.Json.RoundTrip
import SpatialColumns.Proofs.Reading.Gate
import SpatialColumns.Proofs.Reading.Malformed
import SpatialColumns.Proofs.Reading.Masking
import SpatialColumns.Proofs.Reading.Slicing
import SpatialColumns.Proofs.RecordBatch.Acceptance
import SpatialColumns.Proofs.RecordBatch.Instances
import SpatialColumns.Proofs.RecordBatch.Transport
import SpatialColumns.Proofs.Session.Conservation
import SpatialColumns.Proofs.Session.Reservations
import SpatialColumns.Proofs.Stream.RoundTrip
import SpatialColumns.Proofs.Uuid.Order
import SpatialColumns.Session
import SpatialColumns.Stream
import SpatialColumns.Uuid.Text
